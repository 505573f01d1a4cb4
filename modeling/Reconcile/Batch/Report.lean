import Reconcile.Submission.Call

namespace Reconcile

-- An operation that failed, and why.
structure FailedJob where
  job : Job
  failure : Failure

def FailedJob.message (f : FailedJob) : String :=
  f.job.operation.describe ++ ": " ++ f.failure.message

-- What became of a batch: every operation was applied (queued, when staged), failed, or never run.
structure Report where
  staged : Bool
  applied : List Job
  failed : List FailedJob
  skipped : List Job
  interrupted : Bool

namespace Report

def empty (staged : Bool) : Report := ⟨staged, [], [], [], false⟩

def isSuccess (r : Report) : Bool := r.failed.isEmpty && r.skipped.isEmpty

-- Some changes reached the live configuration, but not all of them.
def partiallyApplied (r : Report) : Bool := !r.staged && !r.applied.isEmpty && !r.isSuccess

def text (r : Report) : String :=
  s!"{r.applied.length} applied, {r.failed.length} failed, {r.skipped.length} skipped" ++
    (if r.interrupted then " (interrupted)" else "") ++
    (if r.partiallyApplied then "; target partially reconciled" else "")

def skip (r : Report) (jobs : List Job) : Report := { r with skipped := r.skipped ++ jobs }

-- Enters the result of one operation. A failure of the context means that the batch was stopped.
def enter (r : Report) (job : Job) (result : Except Failure Unit) : Report :=
  match result with
  | .ok _ => { r with applied := r.applied ++ [job] }
  | .error failure =>
    { r with
      failed := r.failed ++ [⟨job, failure⟩]
      interrupted := r.interrupted || failure.category = .context }

end Report
end Reconcile
