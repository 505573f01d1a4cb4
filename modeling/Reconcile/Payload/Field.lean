import Reconcile.Operation.Basic
import Reconcile.Text.Blank
import Reconcile.Word

namespace Reconcile.Payload

-- A field as a model writes it: none when it is absent. An absent field and one that is false
-- stay apart.
def field (key : String) (value : Option Json) : List (String × Json) :=
  match value with
  | none => []
  | some v => [(key, v)]

def word32 (n : UInt32) : Json := .nat n.toNat

def word64 (n : UInt64) : Json := .nat n.toNat

def toggle (on : Bool) : Json := .string (if on then "enabled" else "disabled")

def readWord32? (v : Json) : Option UInt32 :=
  v.asNat?.bind fun n => if n < Word.count32 then some (UInt32.ofNat n) else none

def readWord64? (v : Json) : Option UInt64 :=
  v.asNat?.bind fun n => if n < Word.count64 then some (UInt64.ofNat n) else none

-- The fields of a model: those of an object, or the list of all of them in order.
def readFields (names : List String) (v : Json) : Option Json.Object :=
  match v with
  | .array items => if items.length < names.length then none else v.asRecord? names
  | _ => v.asRecord? names

-- A field that may be missing or null; the outer option is about one that cannot be read.
def readOptional (o : Json.Object) (key : String) (read : Json → Option α) : Option (Option α) :=
  match o.get? key with
  | none | some .null => some none
  | some v => (read v).map some

def readRequired (o : Json.Object) (key : String) (read : Json → Option α) : Option α :=
  (o.get? key).bind read

abbrev Wire := Except TransformError Json.Object

def require (key value : String) : Except TransformError Unit :=
  if Text.isBlank value then .error (.invalidField key "must not be empty") else .ok ()

def checkPort (port : Option UInt32) : Except TransformError Unit :=
  match port with
  | some p =>
    if p.toNat = 0 ∨ 65535 < p.toNat then
      .error (.invalidField "port" s!"{p.toNat} is outside 1-65535")
    else .ok ()
  | none => .ok ()

end Reconcile.Payload
