import Reconcile.Operation.Basic

namespace Reconcile

-- What operations are ordered by: their tier, and within it their position if they have one.
abbrev OrderKey := Nat × Nat

def OrderKey.le (a b : OrderKey) : Bool := a.1 < b.1 || a.1 == b.1 && a.2 ≤ b.2

def Operation.orderKey (op : Operation) : OrderKey := (op.tier.rank, op.address.index?.getD 0)

-- A list of entries that are addressed by their positions: one for every kind and parent.
structure PositionalList where
  kind : Section
  parent : Parent
deriving DecidableEq, Repr

def Operation.positional? (op : Operation) : Option PositionalList :=
  match op.address with
  | .indexed parent _ => some ⟨op.kind, parent⟩
  | _ => none

namespace Schedule

-- Lower keys first. Equal keys stay in the order in which they came.
def ascending (ops : List Operation) : List Operation :=
  ops.mergeSort fun a b => OrderKey.le a.orderKey b.orderKey

-- Higher keys first. Equal keys stay in the order in which they came.
def descending (ops : List Operation) : List Operation :=
  ops.mergeSort fun a b => OrderKey.le b.orderKey a.orderKey

end Schedule

-- A batch apart by verbs: what is created or changed from the most foundational tier upwards, what
-- is deleted the other way round.
structure Schedule where
  creates : List Operation
  updates : List Operation
  deletes : List Operation

namespace Schedule

def ofList (ops : List Operation) : Schedule :=
  ⟨ascending (ops.filter (·.verb = .create)), ascending (ops.filter (·.verb = .update)),
    descending (ops.filter (·.verb = .delete))⟩

def size (s : Schedule) : Nat := s.creates.length + s.updates.length + s.deletes.length

-- Creates and updates together. Of equal keys, creates come first.
def merged (s : Schedule) : List Operation := ascending (s.creates ++ s.updates)

-- Puts the deletes on a positional list right before the first operation of `ops` on that list;
-- deletes on lists that no operation works on come last.
def hoist : (deletes ops : List Operation) → List Operation
  | deletes, [] => deletes
  | deletes, op :: rest =>
    match op.positional? with
    | none => op :: hoist deletes rest
    | some list =>
      let (now, later) := deletes.partition (·.positional? = some list)
      now ++ op :: hoist later rest

-- Whether something is created or changed on the list that an operation works on.
def touched (ops : List Operation) (op : Operation) : Bool :=
  op.positional?.isSome && ops.any fun other => other.positional? = op.positional?

-- The order in which a batch is carried out: creates and updates, then deletes. Only the deletes on
-- a positional list that is also created into or changed come before: so the positions of deletes
-- are those in the list as it was, and all other positions those in the list as it will be.
def ordered (s : Schedule) : List Operation :=
  let (hoisted, trailing) := s.deletes.partition (touched s.merged)
  hoist hoisted s.merged ++ trailing

end Schedule
end Reconcile
