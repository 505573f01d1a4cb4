import Mathlib.Data.List.Basic
import Mathlib.Data.String.Basic
import Mathlib.Tactic.Common
import Reconcile.Json.Reader
import Reconcile.Json.Writer
import Reconcile.Proofs.Text.Split

namespace Reconcile.Json

section strings

variable {done rest : List Char} {c d : Char}

theorem readString_quote :
    readString (some done) ('"' :: rest) = some (some (String.ofList done.reverse), rest) := by
  rw [readString]
  rfl

theorem readString_plain (quote : c ≠ '"') (slash : c ≠ '\\') (high : ¬c.toNat < 0x20) :
    readString (some done) (c :: rest) = readString (some (c :: done)) rest := by
  rw [readString]
  · simp [high, slash, addChar]
  · simpa using quote
  · intros; simp_all
  · intros; simp_all
  · intros; simp_all

theorem readString_simple (plain : simpleEscape? c = some d) :
    readString (some done) ('\\' :: c :: rest) = readString (some (d :: done)) rest := by
  rw [readString]
  · simp [plain, addChar]
  · intros; simp_all [simpleEscape?]
  · intros; simp_all [simpleEscape?]

theorem readString_unit {w x y z : Char} {n : Nat} (unit : hexUnit? [w, x, y, z] = some n)
    (single : n < 0xD800) : readString (some done) ('\\' :: 'u' :: w :: x :: y :: z :: rest) =
      readString (some (Char.ofNat n :: done)) rest := by
  have high : isHigh n = false := by simp [isHigh]; omega
  have low : isLow n = false := by simp [isLow]; omega
  conv => lhs; rw [readString.eq_def]
  split
  · rename_i shape
    cases shape
  · rename_i shape
    cases shape
  · rename_i shape
    cases shape
    simp [unit, high, low, addChar]
  · rename_i shape
    cases shape
    simp [unit, high, low, addChar]
  · rename_i other shape
    cases shape
    exact absurd rfl (other _ _ _ _ _ rfl)
  · rename_i other shape
    cases shape
    exact absurd rfl (other _ _ rfl)

theorem hexUnit?_control : ∀ n < 0x20,
    hexUnit? ['0', '0', Text.lowerHexDigit (n / 16), Text.lowerHexDigit (n % 16)] = some n := by
  decide

theorem readString_escapeChar (c : Char) (rest : List Char) :
    readString (some done) (escapeChar c ++ rest) = readString (some (c :: done)) rest := by
  unfold escapeChar
  split_ifs with quote slash feed carriage tab back form control
  · subst quote
    exact readString_simple rfl
  · subst slash
    exact readString_simple rfl
  · subst feed
    exact readString_simple rfl
  · subst carriage
    exact readString_simple rfl
  · subst tab
    exact readString_simple rfl
  · subst back
    exact readString_simple rfl
  · subst form
    exact readString_simple rfl
  · refine (readString_unit (hexUnit?_control _ control) (by omega)).trans ?_
    rw [Char.ofNat_toNat]
    rfl
  · exact readString_plain quote slash control

-- A string is read back as it was written.
theorem readString_escape (text done rest : List Char) :
    readString (some done) (text.flatMap escapeChar ++ '"' :: rest) =
      some (some (String.ofList (done.reverse ++ text)), rest) := by
  induction text generalizing done with
  | nil => rw [List.flatMap_nil, List.nil_append, readString_quote, List.append_nil]
  | cons c text ih =>
    rw [List.flatMap_cons, List.append_assoc, readString_escapeChar, ih, List.reverse_cons,
      List.append_assoc]
    rfl

theorem writeString_unique {text text' : String} {rest' : List Char}
    (same : (writeString text).toList ++ rest = (writeString text').toList ++ rest') :
    text = text' ∧ rest = rest' := by
  have read : ∀ (text : String) (rest : List Char),
      readString (some []) ((writeString text).toList ++ rest).tail = some (some text, rest) := by
    intro text rest
    have body := readString_escape text.toList [] rest
    rw [List.reverse_nil, List.nil_append, String.ofList_toList] at body
    simpa [writeString] using body
  have both := read text rest
  rw [same, read text' rest'] at both
  simpa [eq_comm] using both

end strings

-- What numbers are written with.
def isNumeral (c : Char) : Bool := c.isDigit || c = '-' || c = '.' || c = 'e'

def Numeric (text : String) : Prop := ∀ c ∈ text.toList, isNumeral c = true

instance (text : String) : Decidable (Numeric text) :=
  decidable_of_iff (text.toList.all isNumeral = true) List.all_eq_true

section numbers

theorem Numeric.append {text text' : String} (one : Numeric text) (two : Numeric text') :
    Numeric (text ++ text') := by
  intro c mem
  rw [String.toList_append] at mem
  rcases List.mem_append.mp mem with first | second
  · exact one c first
  · exact two c second

theorem numeric_of_subset {cs : List Char} {text : String} (numeric : Numeric text)
    (part : cs ⊆ text.toList) : Numeric (String.ofList cs) := by
  intro c mem
  rw [String.toList_ofList] at mem
  exact numeric c (part mem)

theorem numeric_nat (n : Nat) : Numeric (toString n) := by
  intro c mem
  rw [Nat.toString_eq_ofList_toDigits, String.toList_ofList] at mem
  have digit : c.isDigit = true := Nat.isDigit_of_mem_toDigits (by decide) (by decide) mem
  simp [isNumeral, digit]

theorem numeric_int (n : Int) : Numeric (toString n) := by
  cases n with
  | ofNat n => exact numeric_nat n
  | negSucc n =>
    have minus : Numeric "-" := by decide
    exact minus.append (numeric_nat (n + 1))

theorem numeric_zeros (n : Nat) : Numeric (String.ofList (List.replicate n '0')) := by
  intro c mem
  rw [String.toList_ofList] at mem
  rw [List.eq_of_mem_replicate mem]
  rfl

theorem numeric_writeBinary (bits : UInt64) : Numeric (writeBinary bits) := by
  have sign : Numeric (if Binary.isNegative bits then "-" else "") := by split <;> decide
  have point : Numeric "." := by decide
  have mark : Numeric "e" := by decide
  have front (n k : Nat) : Numeric (String.ofList ((toString n).toList.take k)) :=
    numeric_of_subset (numeric_nat n) (List.take_subset ..)
  have back (n k : Nat) : Numeric (String.ofList ((toString n).toList.drop k)) :=
    numeric_of_subset (numeric_nat n) (List.drop_subset ..)
  unfold writeBinary
  dsimp only
  split
  · exact sign.append (by decide)
  · refine sign.append ?_
    split_ifs
    · exact ((numeric_nat _).append (numeric_zeros _)).append (by decide)
    · exact ((front _ _).append point).append (back _ _)
    · exact (Numeric.append (by decide) (numeric_zeros _)).append (numeric_nat _)
    · exact ((numeric_nat _).append mark).append (numeric_int _)
    · exact ((((front _ _).append point).append (back _ _)).append mark).append (numeric_int _)

theorem numeric_writeNumber (n : Number) : Numeric (writeNumber n) := by
  cases n with
  | integer n => exact numeric_int n
  | float bits => exact numeric_writeBinary bits

theorem writeBinary_ne_empty (bits : UInt64) : writeBinary bits ≠ "" := by
  unfold writeBinary
  dsimp only
  split
  · simp [String.append_eq_empty_iff]
  · split_ifs <;> simp [String.append_eq_empty_iff]

theorem writeNumber_ne_nil (n : Number) : (writeNumber n).toList ≠ [] := by
  cases n with
  | integer n =>
    cases n with
    | ofNat n =>
      have digits : (toString n).toList ≠ [] := by
        rw [Nat.toString_eq_ofList_toDigits, String.toList_ofList]
        exact Nat.toDigits_ne_nil
      exact digits
    | negSucc n =>
      have signed : ("-" ++ toString (n + 1)).toList ≠ [] := by simp
      exact signed
  | float bits => exact fun empty => writeBinary_ne_empty bits (String.toList_inj.mp empty)

end numbers

-- Where a number cannot go on.
def Ends (rest : List Char) : Prop := ∀ c ∈ rest.head?, (!isNumeral c) = true

theorem ends_cons {c : Char} {rest : List Char} (other : isNumeral c = false) :
    Ends (c :: rest) := by
  rintro d ⟨⟩
  rw [other]
  rfl

-- Something written that tells where it stops, and of what it is written from tells so much.
def Legible {α : Type} (written : α → List Char) (Alike : α → α → Prop) (a : α) : Prop :=
  ∀ {b : α} {rest rest' : List Char}, Ends rest → Ends rest' →
    written a ++ rest = written b ++ rest' → Alike a b ∧ rest = rest'

section lists

variable {α : Type} {written : α → List Char} {Alike : α → α → Prop} {close : Char}
  {items others : List α} {rest rest' : List Char}

theorem ends_marked (closes : isNumeral close = false) (items : List α) :
    Ends (items.flatMap (fun a => ',' :: written a) ++ close :: rest) := by
  cases items with
  | nil => exact ends_cons closes
  | cons a items => exact ends_cons (by decide)

theorem marked_alike (apart : close ≠ ',') (closes : isNumeral close = false)
    (each : ∀ a ∈ items, Legible written Alike a)
    (same : items.flatMap (fun a => ',' :: written a) ++ close :: rest =
      others.flatMap (fun a => ',' :: written a) ++ close :: rest') :
    List.Forall₂ Alike items others ∧ rest = rest' := by
  induction items generalizing others with
  | nil =>
    cases others with
    | nil => exact ⟨.nil, (List.cons.inj same).2⟩
    | cons b others => exact absurd (List.cons.inj same).1 apart
  | cons a items ih =>
    cases others with
    | nil => exact absurd (List.cons.inj same).1.symm apart
    | cons b others =>
      obtain ⟨first, further⟩ := List.forall_mem_cons.mp each
      rw [List.flatMap_cons, List.flatMap_cons, List.append_assoc, List.append_assoc] at same
      obtain ⟨alike, after⟩ :=
        first (ends_marked closes items) (ends_marked closes others) (List.cons.inj same).2
      obtain ⟨all, last⟩ := ih further after
      exact ⟨.cons alike all, last⟩

-- Of two lists that are written alike, the items are alike one by one.
theorem joined_alike (apart : close ≠ ',') (closes : isNumeral close = false)
    (each : ∀ a ∈ items, Legible written Alike a)
    (begun : ∀ a rest more, written a ++ rest ≠ close :: more)
    (same : [','].intercalate (items.map written) ++ close :: rest =
      [','].intercalate (others.map written) ++ close :: rest') :
    List.Forall₂ Alike items others ∧ rest = rest' := by
  have joined (a : α) (items : List α) (rest : List Char) :
      [','].intercalate ((a :: items).map written) ++ close :: rest =
        written a ++ (items.flatMap (fun a => ',' :: written a) ++ close :: rest) := by
    rw [List.map_cons, Text.intercalate_cons, List.flatMap_map, List.append_assoc]
    rfl
  cases items with
  | nil =>
    cases others with
    | nil => exact ⟨.nil, (List.cons.inj same).2⟩
    | cons b others =>
      exact absurd ((joined b others rest').symm.trans same.symm) (begun b _ rest)
  | cons a items =>
    cases others with
    | nil => exact absurd ((joined a items rest).symm.trans same) (begun a _ rest')
    | cons b others =>
      obtain ⟨first, further⟩ := List.forall_mem_cons.mp each
      rw [joined, joined] at same
      obtain ⟨alike, after⟩ := first (ends_marked closes items) (ends_marked closes others) same
      obtain ⟨all, last⟩ := marked_alike apart closes further after
      exact ⟨.cons alike all, last⟩

end lists

theorem writeItems_eq (items : List Json) : writeItems items = items.map write := by
  induction items with
  | nil => rfl
  | cons item rest ih => rw [writeItems, ih, List.map_cons]

def writeField (field : String × Json) : String := writeString field.1 ++ ":" ++ write field.2

theorem writeFields_eq (fields : Object) : writeFields fields = fields.map writeField := by
  induction fields with
  | nil => rfl
  | cons field rest ih => rw [writeFields, ih, List.map_cons, writeField]

section values

variable {a b : Json} {fields others : Object} {rest rest' : List Char}

theorem write_string (text : String) (rest : List Char) : (write (.string text)).toList ++ rest =
    '"' :: (text.toList.flatMap escapeChar ++ '"' :: rest) := by
  simp [write, writeString]

theorem write_array (items : List Json) (rest : List Char) : (write (.array items)).toList ++ rest =
    '[' :: ([','].intercalate (items.map fun a => (write a).toList) ++ ']' :: rest) := by
  simp [write, writeItems_eq, String.toList_intercalate, Function.comp_def]

theorem write_object (fields : Object) (rest : List Char) :
    (write (.object fields)).toList ++ rest =
      '\x7b' :: ([','].intercalate (fields.map fun field => (writeField field).toList) ++
        '\x7d' :: rest) := by
  simp [write, writeFields_eq, String.toList_intercalate, Function.comp_def]

-- What a value begins with tells what kind of value it is; the numerals stand for one another.
def mark (c : Char) : Char := if isNumeral c then '0' else c

def tag : Json → Char
  | .null => 'n'
  | .bool true => 't'
  | .bool false => 'f'
  | .number _ => '0'
  | .string _ => '"'
  | .array _ => '['
  | .object _ => '\x7b'

theorem write_head (a : Json) (rest : List Char) :
    ∃ c more, (write a).toList ++ rest = c :: more ∧ mark c = tag a := by
  cases a with
  | null => exact ⟨_, _, rfl, by decide⟩
  | bool b => cases b <;> exact ⟨_, _, rfl, by decide⟩
  | number n =>
    obtain ⟨c, more, text⟩ := List.exists_cons_of_ne_nil (writeNumber_ne_nil n)
    have numeral : isNumeral c = true := numeric_writeNumber n c (by simp [text])
    exact ⟨c, more ++ rest, by rw [write, text, List.cons_append], if_pos numeral⟩
  | string text => exact ⟨_, _, write_string text rest, by rfl⟩
  | array items => exact ⟨_, _, write_array items rest, by rfl⟩
  | object fields => exact ⟨_, _, write_object fields rest, by rfl⟩

theorem tag_unique (same : (write a).toList ++ rest = (write b).toList ++ rest') :
    tag a = tag b := by
  obtain ⟨c, more, begins, marked⟩ := write_head a rest
  obtain ⟨d, more', begins', marked'⟩ := write_head b rest'
  rw [begins, begins'] at same
  rw [← marked, ← marked', (List.cons.inj same).1]

theorem write_ne_close (a : Json) (rest more : List Char) :
    (write a).toList ++ rest ≠ ']' :: more := by
  intro same
  obtain ⟨c, more', begins, marked⟩ := write_head a rest
  have bracket : tag a = ']' := by
    rw [← marked, (List.cons.inj (begins.symm.trans same)).1]
    decide
  fun_cases tag a <;> exact absurd bracket (by simp [tag])

-- Values that begin alike: of one kind, and of the truth values the same one.
inductive Paired : Json → Json → Prop
  | null : Paired .null .null
  | bool (b : Bool) : Paired (.bool b) (.bool b)
  | number (n m : Number) : Paired (.number n) (.number m)
  | string (text text' : String) : Paired (.string text) (.string text')
  | array (items others : List Json) : Paired (.array items) (.array others)
  | object (fields others : Object) : Paired (.object fields) (.object others)

theorem paired_of_tag (same : tag a = tag b) : Paired a b := by
  fun_cases tag a <;> fun_cases tag b <;> first | constructor | exact absurd same (by simp [tag])

theorem sizeOf_item {items : List Json} (mem : a ∈ items) :
    sizeOf a < sizeOf (Json.array items) := by
  have smaller := List.sizeOf_lt_of_mem mem
  rw [array.sizeOf_spec]
  omega

theorem sizeOf_field {field : String × Json} (mem : field ∈ fields) :
    sizeOf field.2 < sizeOf (Json.object fields) := by
  have smaller := List.sizeOf_lt_of_mem mem
  cases field
  rw [Prod.mk.sizeOf_spec] at smaller
  rw [object.sizeOf_spec]
  dsimp only
  omega

-- Induction over a value and all values in it.
theorem ind {motive : Json → Prop} (null : motive .null) (bool : ∀ b, motive (.bool b))
    (number : ∀ n, motive (.number n)) (string : ∀ text, motive (.string text))
    (array : ∀ items, (∀ item ∈ items, motive item) → motive (.array items))
    (object : ∀ fields : Object, (∀ field ∈ fields, motive field.2) → motive (.object fields)) :
    ∀ a, motive a
  | .null => null
  | .bool b => bool b
  | .number n => number n
  | .string text => string text
  | .array items => array items fun item _ => ind null bool number string array object item
  | .object fields => object fields fun field _ => ind null bool number string array object field.2
termination_by a => sizeOf a
decreasing_by
  · exact sizeOf_item ‹_›
  · exact sizeOf_field ‹_›

-- Strings are read back from what is written, wherever they stand.
abbrev Told : Json → Prop := Legible (fun a => (write a).toList) (·.asString? = ·.asString?)

structure AlikeField (field other : String × Json) : Prop where
  key : field.1 = other.1
  value : field.2.asString? = other.2.asString?

theorem fields_alike (each : ∀ field ∈ fields, Told field.2)
    (same : (write (.object fields)).toList ++ rest = (write (.object others)).toList ++ rest') :
    List.Forall₂ AlikeField fields others ∧ rest = rest' := by
  rw [write_object, write_object] at same
  refine joined_alike (by decide) (by decide) ?_ ?_ (List.cons.inj same).2
  · intro field mem other rest rest' ends ends' same
    simp only [writeField, String.toList_append, List.append_assoc] at same
    obtain ⟨key, after⟩ := writeString_unique same
    obtain ⟨value, last⟩ := each field mem ends ends' (List.append_cancel_left after)
    exact ⟨⟨key, value⟩, last⟩
  · intro field rest more same
    simp [writeField, writeString] at same

-- What follows a value is not that of the whole text, so it varies with the value.
theorem told (a : Json) : Told a := by
  intro b rest rest' ends ends' same
  induction a using ind generalizing b rest rest' with
  | null =>
    cases paired_of_tag (tag_unique same)
    exact ⟨rfl, List.append_cancel_left same⟩
  | bool value =>
    cases paired_of_tag (tag_unique same)
    exact ⟨rfl, List.append_cancel_left same⟩
  | number n =>
    cases paired_of_tag (tag_unique same) with
    | number n m =>
      have plain (n : Number) : ∀ c ∈ (writeNumber n).toList, (!isNumeral c) = false := by
        intro c mem
        rw [numeric_writeNumber n c mem]
        rfl
      exact ⟨rfl, (Text.front_unique (plain n) (plain m) ends ends' same).2⟩
  | string text =>
    cases paired_of_tag (tag_unique same)
    obtain ⟨rfl, after⟩ := writeString_unique same
    exact ⟨rfl, after⟩
  | array items ih =>
    cases paired_of_tag (tag_unique same)
    rw [write_array, write_array] at same
    exact ⟨rfl,
      (joined_alike (by decide) (by decide) ih write_ne_close (List.cons.inj same).2).2⟩
  | object fields ih =>
    cases paired_of_tag (tag_unique same)
    exact ⟨rfl, (fields_alike ih same).2⟩

-- Fields with the same strings in the same places have the same strings under the same keys.
theorem string_of_alike (alike : List.Forall₂ AlikeField fields others) (key : String) :
    (fields.get? key).bind asString? = (others.get? key).bind asString? := by
  induction alike with
  | nil => rfl
  | @cons field other fields others both more ih =>
    rw [Object.get?, Object.get?, List.find?_cons, List.find?_cons, both.key]
    cases found : other.1 == key with
    | true => exact both.value
    | false => exact ih

theorem string_of_written (same : write (.object fields) = write (.object others)) (key : String) :
    (fields.get? key).bind asString? = (others.get? key).bind asString? := by
  have texts : (write (.object fields)).toList ++ [] = (write (.object others)).toList ++ [] := by
    rw [same]
  exact string_of_alike (fields_alike (fun field _ => told field.2) texts).1 key

end values

end Reconcile.Json
