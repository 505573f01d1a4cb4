namespace Reconcile

-- A number of a JSON text: an integer that fits a signed or an unsigned word of 64 bits, or the
-- bits of the binary64 number that anything else is read as. Bits, so that equality is decidable
-- and tells zero from negative zero.
inductive Json.Number where
  | integer (value : Int)
  | float (bits : UInt64)
deriving DecidableEq, Repr

-- Objects list their fields in increasing key order, each key once; `Json.Object.insert` keeps that.
inductive Json where
  | null
  | bool (value : Bool)
  | number (value : Json.Number)
  | string (value : String)
  | array (items : List Json)
  | object (fields : List (String × Json))
deriving Repr, Inhabited

namespace Json

abbrev Object := List (String × Json)

mutual
def decEq : (a b : Json) → Decidable (a = b)
  | .null, .null => .isTrue rfl
  | .bool a, .bool b => if h : a = b then .isTrue (h ▸ rfl) else .isFalse (by simp [h])
  | .number a, .number b => if h : a = b then .isTrue (h ▸ rfl) else .isFalse (by simp [h])
  | .string a, .string b => if h : a = b then .isTrue (h ▸ rfl) else .isFalse (by simp [h])
  | .array a, .array b =>
    match decEqItems a b with
    | .isTrue h => .isTrue (h ▸ rfl)
    | .isFalse h => .isFalse (by simp [h])
  | .object a, .object b =>
    match decEqFields a b with
    | .isTrue h => .isTrue (h ▸ rfl)
    | .isFalse h => .isFalse (by simp [h])
  | .null, .bool _ | .null, .number _ | .null, .string _ | .null, .array _ | .null, .object _
  | .bool _, .null | .bool _, .number _ | .bool _, .string _ | .bool _, .array _ | .bool _, .object _
  | .number _, .null | .number _, .bool _ | .number _, .string _ | .number _, .array _
  | .number _, .object _ | .string _, .null | .string _, .bool _ | .string _, .number _
  | .string _, .array _ | .string _, .object _ | .array _, .null | .array _, .bool _
  | .array _, .number _ | .array _, .string _ | .array _, .object _ | .object _, .null
  | .object _, .bool _ | .object _, .number _ | .object _, .string _ | .object _, .array _ =>
    .isFalse (by simp)
def decEqItems : (a b : List Json) → Decidable (a = b)
  | [], [] => .isTrue rfl
  | [], _ :: _ | _ :: _, [] => .isFalse (by simp)
  | a :: as, b :: bs =>
    match decEq a b, decEqItems as bs with
    | .isTrue h, .isTrue t => .isTrue (h ▸ t ▸ rfl)
    | .isFalse h, _ => .isFalse (by simp [h])
    | _, .isFalse t => .isFalse (by simp [t])
def decEqFields : (a b : List (String × Json)) → Decidable (a = b)
  | [], [] => .isTrue rfl
  | [], _ :: _ | _ :: _, [] => .isFalse (by simp)
  | (k, a) :: as, (l, b) :: bs =>
    if key : k = l then
      match decEq a b, decEqFields as bs with
      | .isTrue h, .isTrue t => .isTrue (key ▸ h ▸ t ▸ rfl)
      | .isFalse h, _ => .isFalse (by simp [h])
      | _, .isFalse t => .isFalse (by simp [t])
    else .isFalse (by simp [key])
end

instance : DecidableEq Json := decEq

def Object.get? (fields : Object) (key : String) : Option Json :=
  (fields.find? (·.1 == key)).map (·.2)

-- Sets a key, keeping increasing key order; a value the key had before is lost.
def Object.insert (fields : Object) (key : String) (value : Json) : Object :=
  match fields with
  | [] => [(key, value)]
  | (k, v) :: rest =>
    if key < k then (key, value) :: (k, v) :: rest
    else if key = k then (key, value) :: rest
    else (k, v) :: Object.insert rest key value

-- The fields written one after another: of a key written twice the last value stays.
def Object.ofList (fields : List (String × Json)) : Object :=
  fields.foldl (fun o f => Object.insert o f.1 f.2) []

def Object.keys (fields : Object) : List String := fields.map (·.1)

def ofFields (fields : List (String × Json)) : Json := .object (Object.ofList fields)

def nat (n : Nat) : Json := .number (.integer n)

def asString? : Json → Option String
  | .string s => some s
  | _ => none

def asBool? : Json → Option Bool
  | .bool b => some b
  | _ => none

def asNat? : Json → Option Nat
  | .number (.integer n) => if 0 ≤ n then some n.toNat else none
  | _ => none

def asArray? : Json → Option (List Json)
  | .array items => some items
  | _ => none

def asObject? : Json → Option Object
  | .object fields => some fields
  | _ => none

-- A word of a fixed list, alone or as the only key of an object, over null.
def asWord? (ofKey? : String → Option α) : Json → Option α
  | .string key => ofKey? key
  | .object [(key, .null)] => ofKey? key
  | _ => none

-- The named fields of a record: an object, or the list of the values from the first field on.
def asRecord? (names : List String) : Json → Option Object
  | .object fields => some fields
  | .array items => if items.length ≤ names.length then some (names.zip items) else none
  | _ => none

theorem Object.get?_insert (fields : Object) (key other : String) (value : Json) :
    (fields.insert key value).get? other = if other = key then some value else fields.get? other := by
  induction fields with
  | nil =>
    by_cases h : other = key
    · simp [insert, get?, h]
    · have hk : ¬ key = other := fun e => h e.symm
      simp [insert, get?, h, hk]
  | cons field rest ih =>
    obtain ⟨k, v⟩ := field
    unfold insert
    by_cases low : key < k
    · by_cases h : other = key
      · simp [low, get?, h]
      · have hk : ¬ key = other := fun e => h e.symm
        simp [low, get?, h, hk]
    · by_cases eq : key = k
      · subst eq
        rw [if_neg low, if_pos rfl]
        by_cases h : other = key
        · simp [get?, h]
        · have hk : ¬ key = other := fun e => h e.symm
          simp [get?, h, hk]
      · simp only [low, eq, if_false]
        by_cases h : k = other
        · subst h
          have hk : ¬ k = key := fun e => eq e.symm
          simp [get?, hk]
        · have hbeq : (k == other) = false := by simp [h]
          simp only [get?, List.find?_cons, hbeq] at ih ⊢
          exact ih

end Json
end Reconcile
