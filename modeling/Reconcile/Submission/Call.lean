import Reconcile.Submission.Context

namespace Reconcile

-- An operation at its place in the batch. Two operations that look the same are told apart by it.
structure Job where
  position : Nat
  operation : Operation

-- What an operation waits for: an answer of the API, or the time when a pause is over.
inductive Call where
  | readVersion
  | submit (request : Request)
  | pause (due : Nat)
deriving DecidableEq

-- The version or the status that a call brings. A pause brings 0.
abbrev Reply := Except TransportError Nat

end Reconcile
