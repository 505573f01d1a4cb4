import Reconcile.Operation.Basic

namespace Reconcile

-- The identifier of an open transaction; whoever opened it commits it or rolls it back.
structure TransactionId where
  text : String
  notBlank : Text.isBlank text = false
deriving DecidableEq

namespace TransactionId

def ofText? (text : String) : Option TransactionId :=
  if h : Text.isBlank text = false then some ⟨text, h⟩ else none

def blankMessage : String := "transaction id is empty"

theorem ofText?_text (id : TransactionId) : ofText? id.text = some id := by
  simp [ofText?, id.notBlank]

end TransactionId

-- How a request takes effect: queued inside a transaction, or at once if the configuration still
-- has the given version.
inductive ApplyMode where
  | staged (id : TransactionId)
  | runtime (version : Nat)
deriving DecidableEq

def ApplyMode.isStaged : ApplyMode → Bool
  | .staged _ => true
  | .runtime _ => false

-- A change that has passed every local check and waits for an apply mode. A delete has no body.
structure Mutation where
  verb : Verb
  kind : Section
  target : Target
  body : Option Json
deriving DecidableEq

structure Request where
  verb : Verb
  kind : Section
  target : Target
  mode : ApplyMode
  body : Option Json
deriving DecidableEq

def Mutation.request (m : Mutation) (mode : ApplyMode) : Request :=
  ⟨m.verb, m.kind, m.target, mode, m.body⟩

def Request.mutation (r : Request) : Mutation := ⟨r.verb, r.kind, r.target, r.body⟩

-- Success is 200 to 299, and nothing else.
def isSuccess (status : Nat) : Bool := 200 ≤ status && status < 300

-- How the API rejects a version that is no longer current.
def conflictStatus : Nat := 409

theorem isSuccess_conflictStatus : isSuccess conflictStatus = false := rfl

end Reconcile
