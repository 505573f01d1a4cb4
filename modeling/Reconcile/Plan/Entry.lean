import Reconcile.Json.Reader
import Reconcile.Payload.Models
import Reconcile.Word

namespace Reconcile

-- One change as a plan states it.
structure PlanEntry where
  verb : Verb
  kind : Section
  name : Option String := none
  parent : Option Parent := none
  index : Option Nat := none
  container : Option String := none
  payload : Option Json.Object := none

namespace Plan

open Json (Written)

-- The value of each of the named fields. A record is written as an object, in any order and without
-- repetition, or as the list of its values from the first field on. Further fields of an object
-- are refused where `closed` and passed over elsewhere.
def slots? (names : List String) (closed : Bool) : Written → Option (List (Option Written))
  | .array items =>
    if items.length ≤ names.length then
      some (items.map some ++ List.replicate (names.length - items.length) none)
    else none
  | .object fields =>
    let keys := fields.map (·.1)
    if keys.any (·.isNone) then none
    else if closed && keys.any (fun key => key.any (!names.contains ·)) then none
    else
      names.mapM fun name =>
        match fields.filter (·.1 == some name) with
        | [] => some none
        | [field] => some (some field.2)
        | _ => none
  | _ => none

-- A word of a fixed list, alone or as the only key of an object, over null.
def word? (ofKey? : String → Option α) : Written → Option α
  | .string (some key) => ofKey? key
  | .object [(some key, .null)] => ofKey? key
  | _ => none

def text? : Written → Option String
  | .string text => text
  | _ => none

def index? : Written → Option Nat
  | .number n =>
    match n.value? with
    | some (.integer value) => if 0 ≤ value ∧ value < Word.count32 then some value.toNat else none
    | _ => none
  | _ => none

def parent? (w : Written) : Option Parent :=
  match slots? ["kind", "name"] false w with
  | some [some kind, some name] => do
    let kind ← word? Section.ofKey? kind
    let name ← text? name
    return ⟨kind, name⟩
  | _ => none

-- The list of entries, the entry and the payload are each inside the one before.
def payloadDepth : Nat := Json.depthLimit - 2

def payload? : Written → Option Json.Object
  | .object fields => (Written.value? payloadDepth (.object fields)).bind (·.asObject?)
  | _ => none

-- A field that may be missing or null.
def optional? (read : Written → Option α) : Option Written → Option (Option α)
  | none | some .null => some none
  | some w => (read w).map some

def fieldNames : List String :=
  ["op", "section", "name", "parent", "index", "container", "payload"]

def entry? (w : Written) : Option PlanEntry :=
  match slots? fieldNames true w with
  | some [some verb, some kind, name, parent, index, container, payload] => do
    let verb ← word? Verb.ofText? verb
    let kind ← word? Section.ofKey? kind
    let name ← optional? text? name
    let parent ← optional? parent? parent
    let index ← optional? index? index
    let container ← optional? text? container
    let payload ← optional? payload? payload
    return { verb, kind, name, parent, index, container, payload }
  | _ => none

-- The entries of a plan: a list, each entry readable.
def entries? (text : String) : Option (List PlanEntry) :=
  match Written.ofText? text with
  | some (.array items) => items.mapM entry?
  | _ => none

end Plan
end Reconcile
