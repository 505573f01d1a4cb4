import Reconcile.Section.Dependencies
import Reconcile.Schedule.Order
import Reconcile.Submission.Call

namespace Reconcile

-- Operations at their places in the order.
def Job.number (ops : List Operation) : List Job := ops.zipIdx.map fun (op, i) => ⟨i, op⟩

namespace Steps

-- What the operations of a run have in common: their tier, and whether they delete.
def runKey (job : Job) : Tier × Bool := (job.operation.tier, job.operation.verb = .delete)

-- The longest runs of neighbours that agree in their keys.
def runs : List Job → List (List Job)
  | [] => []
  | job :: rest =>
    match runs rest with
    | (next :: more) :: others =>
      if runKey job = runKey next then (job :: next :: more) :: others
      else [job] :: (next :: more) :: others
    | others => [job] :: others

-- Whether one operation could disturb the other: both change the same resource, or one kind of
-- section contains or refers to the other.
def disturbs (a b : Operation) : Bool :=
  if a.kind = b.kind then a.address = b.address else Section.related a.kind b.kind

-- Whether an operation can be carried out at the same time as all others of its run.
def independent (run : List Job) (job : Job) : Bool :=
  job.operation.kind.shape != .indexedChild &&
    !run.any fun other =>
      other.position != job.position && disturbs job.operation other.operation

-- The independent operations of a run in one step, if there are any, then each of the others alone.
def ofRun (run : List Job) : List (List Job) :=
  let (together, alone) := run.partition (independent run)
  (if together.isEmpty then [] else [together]) ++ alone.map ([·])

-- The steps that a batch is carried out in, one after another. The operations of a step are carried
-- out at the same time.
def plan (concurrent : Bool) (jobs : List Job) : List (List Job) :=
  if concurrent then (runs jobs).flatMap ofRun else jobs.map ([·])

end Steps
end Reconcile
