import Reconcile.Plan.Entry
import Reconcile.Schedule.Order

namespace Reconcile

-- Why a plan brings no operations.
inductive PlanError where
  | unreadable
  | missingField (entry : Nat) (kind : Section) (field : String)
deriving DecidableEq, Repr

-- The text of the JSON reader's complaint is not part of it.
def PlanError.message : PlanError → String
  | .unreadable => "Parse error"
  | .missingField entry kind field => s!"entry {entry} ({kind.name}): missing field '{field}'"

namespace PlanEntry

-- What the entry sends: nothing for a delete, whatever payload it states.
def body (e : PlanEntry) : Option Payload.Raw :=
  match e.verb with
  | .delete => none
  | _ => e.payload.map (⟨·⟩)

-- The name it states, or else the one that its body goes by.
def resourceName (e : PlanEntry) : Option String := e.name.or (e.body.bind (·.label))

def missing (e : PlanEntry) (position : Nat) (field : String) : Except PlanError α :=
  .error (.missingField position e.kind field)

-- The address that the kind of section calls for, from those fields alone.
def address (e : PlanEntry) (position : Nat) : Except PlanError Address :=
  match e.kind.shape with
  | .singleton => .ok .singleton
  | .topLevel =>
    match e.resourceName with
    | none => e.missing position "name"
    | some name => .ok (.named name)
  | .namedChild =>
    match e.parent, e.resourceName with
    | none, _ => e.missing position "parent"
    | some _, none => e.missing position "name"
    | some parent, some name => .ok (.child parent name)
  | .indexedChild =>
    match e.parent, e.index with
    | none, _ => e.missing position "parent"
    | some _, none => e.missing position "index"
    | some parent, some index => .ok (.indexed parent index)
  | .scopedChild =>
    match e.container, e.resourceName with
    | none, _ => e.missing position "container"
    | some _, none => e.missing position "name"
    | some container, some name => .ok (.contained container name)

def operation (e : PlanEntry) (position : Nat) : Except PlanError Operation :=
  match e.address position with
  | .error error => .error error
  | .ok address => .ok ⟨e.verb, e.kind, address, e.body.map (·.payload)⟩

end PlanEntry

namespace Plan

-- All operations or the complaint about the first entry that makes none.
def operations (position : Nat) : List PlanEntry → Except PlanError (List Operation)
  | [] => .ok []
  | e :: rest =>
    match e.operation position with
    | .error error => .error error
    | .ok op =>
      match operations (position + 1) rest with
      | .error error => .error error
      | .ok ops => .ok (op :: ops)

def parse (text : String) : Except PlanError (List Operation) :=
  match entries? text with
  | none => .error .unreadable
  | some entries => operations 0 entries

end Plan
end Reconcile
