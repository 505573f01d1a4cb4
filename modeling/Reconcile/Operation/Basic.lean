import Reconcile.Json.Value
import Reconcile.Operation.Address

namespace Reconcile

inductive Verb where
  | create
  | update
  | delete
deriving DecidableEq, Repr

def Verb.text : Verb → String
  | .create => "create"
  | .update => "update"
  | .delete => "delete"

def Verb.ofText? : String → Option Verb
  | "create" => some .create
  | "update" => some .update
  | "delete" => some .delete
  | _ => none

-- Why a model has no wire form.
inductive TransformError where
  | invalidField (field reason : String)
  | notAnObject
deriving DecidableEq, Repr

def TransformError.message : TransformError → String
  | .invalidField field reason => s!"invalid field `{field}`: {reason}"
  | .notAnObject => "payload is not a JSON object"

-- All that can be seen of the model behind a change: what it is called in descriptions and the
-- object it becomes on the wire, or why it becomes none.
structure Payload where
  label : Option String
  wire : Except TransformError Json.Object

-- One change to one resource. Any combination of its parts is an operation; which of them can be
-- carried out is decided when it is prepared.
structure Operation where
  verb : Verb
  kind : Section
  address : Address
  payload : Option Payload

namespace Operation

def tier (op : Operation) : Tier := op.kind.tier

def label (op : Operation) : String := (op.payload.bind (·.label)).getD ""

-- One line that names the change. It exists for every operation: what is missing is `<unnamed>`.
def describe (op : Operation) : String :=
  let subject := op.verb.text ++ " " ++ op.kind.name
  match op.address with
  | .singleton => subject
  | .named name => s!"{subject} '{orUnnamed name}'"
  | .child parent name => s!"{subject} '{orUnnamed name}' in {parent.text}"
  | .indexed parent index =>
    s!"{subject} '{orUnnamed op.label}' at index {index} in {parent.text}"
  | .contained container name =>
    let holder := (op.kind.parents.head?.map (·.name)).getD "section"
    s!"{subject} '{orUnnamed name}' in {holder} '{orUnnamed container}'"

end Operation
end Reconcile
