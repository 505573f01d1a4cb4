import Reconcile.Journal.Entry
import Reconcile.Submission.Context
import Reconcile.Submission.Prepare
import Reconcile.Word

namespace Reconcile

-- What an operation gets to see at one step: the moment, what the poll of its call brought, and a
-- random draw. A call that is not polled has been interrupted.
structure Sight where
  moment : Moment
  progress : Progress (Except Interruption Reply)
  draw : UInt64

-- How far an operation has come. Attempts count submissions, polls those of the call at hand.
inductive Phase where
  | fresh
  | reading (mutation : Mutation) (attempts polls : Nat)
  | submitting (request : Request) (attempts polls : Nat)
  | pausing (mutation : Mutation) (attempts due polls : Nat)
  | finished (result : Except Failure Unit)
  | broken (fault : Fault)

-- One operation being carried out.
structure Execution where
  job : Job
  phase : Phase

-- What a step leaves: the phase, what happened, and whether the operation has to wait.
structure Turn where
  phase : Phase
  entries : List Entry
  wake : Option Wake

namespace Execution

def start (job : Job) : Execution := ⟨job, .fresh⟩

def ended (e : Execution) : Bool :=
  match e.phase with
  | .finished _ | .broken _ => true
  | _ => false

-- The call that the operation waits for, and how often it has been polled.
def call? (e : Execution) : Option (Call × Nat) :=
  match e.phase with
  | .reading _ _ polls => some (.readVersion, polls)
  | .submitting request _ polls => some (.submit request, polls)
  | .pausing _ _ due polls => some (.pause due, polls)
  | _ => none

-- The number of submissions is counted in a word of 32 bits.
def attemptLimit : Nat := Word.count32

def finish (job : Job) (staged : Bool) (result : Except Failure Unit) (before : List Entry) : Turn :=
  ⟨.finished result, before ++ [.finished job staged result], none⟩

-- All local checks; an operation that fails them never calls anything.
def begin (job : Job) (transaction : Option TransactionId) : Turn :=
  match job.operation.prepare transaction.isSome, transaction with
  | .error failure, _ => finish job transaction.isSome (.error failure) []
  | .ok mutation, some id => ⟨.submitting (mutation.request (.staged id)) 1 0, [], none⟩
  | .ok mutation, none => ⟨.reading mutation 0 0, [], none⟩

-- The version that was read goes into the next submission.
def afterRead (job : Job) (mutation : Mutation) (attempts : Nat) (polled : Entry) :
    Reply → Turn
  | .error error => finish job false (.error (.transport error)) [polled]
  | .ok version =>
    if attempts + 1 < attemptLimit then
      ⟨.submitting (mutation.request (.runtime version)) (attempts + 1) 0, [polled], none⟩
    else ⟨.broken .attempts, [polled], none⟩

-- A rejected version is read again, at once or after a pause, until the retries are used up.
def afterConflict (job : Job) (policy : Policy) (sight : Sight) (request : Request)
    (version attempts : Nat) (polled : Entry) : Turn :=
  let noted := [polled, .conflict job request.kind]
  if policy.exhausted attempts then
    finish job false (.error (.conflict (request.rejection conflictStatus) attempts)) noted
  else
    let retried := noted ++ [.retrying job request version attempts]
    match policy.delay attempts sight.draw with
    | .error fault => ⟨.broken fault, retried, none⟩
    | .ok 0 => ⟨.reading request.mutation attempts 0, retried, none⟩
    | .ok delay => ⟨.pausing request.mutation attempts (sight.moment.clock + delay) 0, retried, none⟩

-- A status settles a submission, except for a conflict outside a transaction.
def afterSubmit (job : Job) (policy : Policy) (sight : Sight) (request : Request)
    (attempts : Nat) (polled : Entry) : Reply → Turn
  | .error error => finish job request.mode.isStaged (.error (.transport error)) [polled]
  | .ok status =>
    match request.mode with
    | .staged _ =>
      finish job true
        (if isSuccess status then .ok () else .error (.api (request.rejection status))) [polled]
    | .runtime version =>
      if isSuccess status then
        finish job false (.ok ())
          (if 1 < attempts then [polled, .settled job request attempts] else [polled])
      else if status = conflictStatus then
        afterConflict job policy sight request version attempts polled
      else finish job false (.error (.api (request.rejection status))) [polled]

-- One step: the local checks, or what the poll of the call at hand brought. An operation that has
-- ended does nothing more.
def turn (context : Context) (transaction : Option TransactionId) (sight : Sight)
    (e : Execution) : Turn :=
  match e.phase with
  | .fresh => begin e.job transaction
  | .finished _ | .broken _ => ⟨e.phase, [], none⟩
  | .reading mutation attempts polls =>
    match sight.progress with
    | .waiting wake =>
      ⟨.reading mutation attempts (polls + 1), [.polled e.job .readVersion polls none], some wake⟩
    | .ready (.error i) => finish e.job transaction.isSome (.error (.context i)) []
    | .ready (.ok reply) =>
      afterRead e.job mutation attempts (.polled e.job .readVersion polls (some reply)) reply
  | .submitting request attempts polls =>
    match sight.progress with
    | .waiting wake =>
      ⟨.submitting request attempts (polls + 1), [.polled e.job (.submit request) polls none],
        some wake⟩
    | .ready (.error i) => finish e.job transaction.isSome (.error (.context i)) []
    | .ready (.ok reply) =>
      afterSubmit e.job context.policy sight request attempts
        (.polled e.job (.submit request) polls (some reply)) reply
  | .pausing mutation attempts due polls =>
    match sight.progress with
    | .waiting wake =>
      ⟨.pausing mutation attempts due (polls + 1), [.polled e.job (.pause due) polls none],
        some wake⟩
    | .ready (.error i) => finish e.job transaction.isSome (.error (.context i)) []
    | .ready (.ok reply) =>
      ⟨.reading mutation attempts 0, [.polled e.job (.pause due) polls (some reply)], none⟩

end Execution
end Reconcile
