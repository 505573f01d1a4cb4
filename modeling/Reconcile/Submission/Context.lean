import Reconcile.Submission.Failure
import Reconcile.Submission.Policy
import Reconcile.Word

namespace Reconcile

-- What decides whether to go on: the time in milliseconds, and whether the caller has cancelled.
structure Moment where
  clock : Nat
  cancelled : Bool
deriving DecidableEq, Repr

-- When something that waits is worth another poll.
inductive Wake where
  | soon
  | timer (due : Nat)
  | never
deriving DecidableEq, Repr

-- What a poll brings.
inductive Progress (α : Type) where
  | waiting (wake : Wake)
  | ready (value : α)
deriving DecidableEq, Repr

def Progress.map (f : α → β) : Progress α → Progress β
  | .waiting wake => .waiting wake
  | .ready value => .ready (f value)

-- Bounds everything that is waited for while operations are carried out. The cancellation is not
-- part of it: whoever shares the context sees the same moment.
structure Context where
  deadline : Option Nat := none
  policy : Policy := .standard
deriving DecidableEq, Repr

namespace Context

-- Why there is nothing more to wait for. Cancellation is looked at before the deadline.
def interruption? (c : Context) (now : Moment) : Option Interruption :=
  if now.cancelled then some .cancelled
  else if c.deadline.any (· ≤ now.clock) then some .deadlineExceeded
  else none

-- A poll that is made only while nothing interrupts. What an interrupted wait would have brought
-- is not asked for.
def guard {m : Type → Type} [Monad m] (c : Context) (now : Moment) (poll : m (Progress α)) :
    m (Progress (Except Interruption α)) :=
  match c.interruption? now with
  | some interruption => pure (.ready (.error interruption))
  | none => do
    let progress ← poll
    return progress.map .ok

-- Instants are counted in signed words of seconds.
def secondsLimit : Nat := Word.half64

-- The context that settings describe, its deadline counted from now.
def within (now : Nat) (policy : Policy) (deadlineSecs : Option UInt64) : Except Fault Context :=
  match deadlineSecs with
  | none => .ok ⟨none, policy⟩
  | some secs =>
    if now / 1000 + secs.toNat < secondsLimit then .ok ⟨some (now + secs.toNat * 1000), policy⟩
    else .error .deadline

end Context

-- A pause is over once its time has come.
def Moment.pause (now : Moment) (due : Nat) : Progress Unit :=
  if due ≤ now.clock then .ready () else .waiting (.timer due)

end Reconcile
