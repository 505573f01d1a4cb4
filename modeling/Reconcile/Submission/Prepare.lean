import Reconcile.Submission.Failure

namespace Reconcile

def Shape.supports : Shape → Verb → Bool
  | .singleton, verb => verb = .update
  | _, _ => true

-- An identifying text that is not blank, unchanged.
def Section.required (s : Section) (field text : String) : Except Refusal String :=
  if Text.isBlank text then .error (.emptyField s field) else .ok text

-- A parent that the section may live in and that has a name.
def Section.checkedParent (s : Section) (parent : Parent) : Except Refusal Parent :=
  if s.acceptsParent parent.kind = false then .error (.parentNotAllowed s parent.kind)
  else do
    let name ← s.required "parent" parent.name
    return ⟨parent.kind, name⟩

-- Where an address lands, if it is the kind of address that the section has and is complete. The
-- container of a scoped section is of the only kind that it can be.
def Section.target (s : Section) (address : Address) : Except Refusal Target :=
  match s.shape, address with
  | .singleton, .singleton => .ok .singleton
  | .topLevel, .named name => do
    let name ← s.required "name" name
    return .named name
  | .namedChild, .child parent name => do
    let parent ← s.checkedParent parent
    let name ← s.required "name" name
    return .child parent name
  | .indexedChild, .indexed parent index => do
    let parent ← s.checkedParent parent
    return .indexed parent index
  | .scopedChild, .contained container name =>
    match s.parents.head? with
    | some kind => do
      let container ← s.required "container" container
      let name ← s.required "name" name
      return .contained ⟨kind, container⟩ name
    | none => .error (.shapeMismatch s)
  | _, _ => .error (.shapeMismatch s)

namespace Operation

-- What is sent: the wire form of the payload, and nothing for a delete, whatever its payload.
def body (op : Operation) : Except Failure (Option Json) :=
  match op.verb with
  | .delete => .ok none
  | verb =>
    match op.payload with
    | none => .error (.validation (.missingPayload op.kind verb))
    | some payload =>
      match payload.wire with
      | .error e => .error (.transform e)
      | .ok fields => .ok (some (.object fields))

-- All local checks, in this order: the verb, the address, the need of a transaction, the payload.
-- Nothing is sent.
def prepare (op : Operation) (inTransaction : Bool) : Except Failure Mutation :=
  if op.kind.shape.supports op.verb = false then
    .error (.validation (.unsupportedVerb op.kind op.verb))
  else
    match op.kind.target op.address with
    | .error refusal => .error (.validation refusal)
    | .ok target =>
      if inTransaction = false ∧ op.kind.runtime = false then
        .error (.validation (.transactionRequired op.kind))
      else
        match op.body with
        | .error failure => .error failure
        | .ok body => .ok ⟨op.verb, op.kind, target, body⟩

end Operation
end Reconcile
