import Reconcile.Url.Percent

namespace Reconcile.Url

theorem digitValue?_upperHexDigit {n : Nat} (small : n < 16) :
    Text.digitValue? 16 (Text.upperHexDigit n) = some n := by
  have all : ∀ n < 16, Text.digitValue? 16 (Text.upperHexDigit n) = some n := by decide
  exact all n small

theorem unescape_escapeByte (b : UInt8) (rest : List Char) :
    unescape (escapeByte b ++ rest) = b :: unescape rest := by
  have size := b.toNat_lt
  have high : b.toNat / 16 < 16 := by omega
  have low : b.toNat % 16 < 16 := by omega
  have whole : b.toNat / 16 * 16 + b.toNat % 16 = b.toNat := by omega
  simp only [escapeByte, List.cons_append, List.nil_append]
  rw [unescape, digitValue?_upperHexDigit high, digitValue?_upperHexDigit low]
  dsimp only
  rw [whole, UInt8.ofNat_toNat]

theorem unescape_escapeBytes (bytes : List UInt8) (rest : List Char) :
    unescape (bytes.flatMap escapeByte ++ rest) = bytes ++ unescape rest := by
  induction bytes with
  | nil => rfl
  | cons b bytes ih =>
    rw [List.flatMap_cons, List.append_assoc, unescape_escapeByte, ih]
    rfl

theorem unescape_cons {c : Char} (plain : c ≠ '%') (rest : List Char) :
    unescape (c :: rest) = String.utf8EncodeChar c ++ unescape rest := by
  rw [unescape]
  rintro a b more rfl
  exact absurd rfl plain

-- What has been escaped stands for what it was, if percent signs have been escaped too.
theorem unescape_escape {reserved : Char → Bool} (percent : reserved '%' = true)
    (cs : List Char) : unescape (escape reserved cs) = cs.flatMap String.utf8EncodeChar := by
  induction cs with
  | nil => rfl
  | cons c cs ih =>
    have one : unescape (escapeChar reserved c ++ escape reserved cs) =
        String.utf8EncodeChar c ++ unescape (escape reserved cs) := by
      unfold escapeChar
      split
      · rename_i plain
        apply unescape_cons
        rintro rfl
        simp [percent] at plain
      · exact unescape_escapeBytes _ _
    rw [escape, List.flatMap_cons, ← escape, one, ih]
    rfl

theorem utf8_injective {cs ds : List Char}
    (same : cs.flatMap String.utf8EncodeChar = ds.flatMap String.utf8EncodeChar) : cs = ds := by
  apply String.ofList_injective
  rw [← String.toByteArray_inj, String.toByteArray_ofList, String.toByteArray_ofList,
    List.utf8Encode, List.utf8Encode, same]

theorem escape_injective {reserved : Char → Bool} (percent : reserved '%' = true)
    {cs ds : List Char} (same : escape reserved cs = escape reserved ds) : cs = ds := by
  apply utf8_injective
  rw [← unescape_escape percent, ← unescape_escape percent, same]

-- Escapes are written with percent signs and these digits only.
def isHexDigit (c : Char) : Bool := Text.isDigit c || ('A' ≤ c && c ≤ 'F')

theorem isHexDigit_upperHexDigit {n : Nat} (small : n < 16) :
    isHexDigit (Text.upperHexDigit n) = true := by
  have all : ∀ n < 16, isHexDigit (Text.upperHexDigit n) = true := by decide
  exact all n small

theorem mem_escapeBytes {c : Char} {bytes : List UInt8} (mem : c ∈ bytes.flatMap escapeByte) :
    c = '%' ∨ isHexDigit c = true := by
  obtain ⟨b, -, own⟩ := List.mem_flatMap.mp mem
  have size := b.toNat_lt
  simp only [escapeByte, List.mem_cons, List.not_mem_nil, or_false] at own
  rcases own with rfl | rfl | rfl
  · exact .inl rfl
  · exact .inr (isHexDigit_upperHexDigit (by omega))
  · exact .inr (isHexDigit_upperHexDigit (by omega))

theorem mem_escapeChar {reserved : Char → Bool} {c d : Char} (mem : d ∈ escapeChar reserved c) :
    d = '%' ∨ isHexDigit d = true ∨ reserved d = false := by
  unfold escapeChar at mem
  split at mem
  · rename_i plain
    rw [List.mem_singleton.mp mem]
    simp only [Bool.and_eq_true, Bool.not_eq_true'] at plain
    exact .inr (.inr plain.2)
  · exact (mem_escapeBytes mem).imp_right .inl

-- A reserved character that is not used to escape others is nowhere in a text that is escaped.
theorem not_mem_escape {reserved : Char → Bool} {d : Char} (taken : reserved d = true)
    (sign : d ≠ '%') (digit : isHexDigit d = false) (cs : List Char) :
    d ∉ escape reserved cs := by
  intro mem
  obtain ⟨c, -, own⟩ := List.mem_flatMap.mp mem
  rcases mem_escapeChar own with same | same | same
  · exact sign same
  · cases same.symm.trans digit
  · cases same.symm.trans taken

-- What is escaped in a query of pairs if spaces are left to be written as plus signs.
def inForm (c : Char) : Bool := !isFormPlain c && c ≠ ' '

def plus (c : Char) : Char := if c = ' ' then '+' else c

def spaced (c : Char) : Char := if c = '+' then ' ' else c

theorem formChar_eq (c : Char) : formChar c = (escapeChar inForm c).map plus := by
  unfold formChar
  split
  · rename_i space
    subst space
    decide
  · rename_i other
    have alike : escapeChar (!isFormPlain ·) c = escapeChar inForm c := by
      simp [escapeChar, inForm, other]
    have kept : ∀ d ∈ escapeChar inForm c, plus d = d := by
      intro d mem
      rw [← alike] at mem
      rw [plus, if_neg]
      rintro rfl
      rcases mem_escapeChar mem with same | same | same
      · cases same
      · exact absurd same (by decide)
      · exact absurd same (by decide)
    rw [alike, List.map_congr_left kept, List.map_id']

theorem formText_eq (text : String) :
    (formText text).toList = (escape inForm text.toList).map plus := by
  rw [formText, String.toList_ofList, escape, List.map_flatMap]
  exact congrArg text.toList.flatMap (funext formChar_eq)

-- Plus signs are escaped, so those that are there stand for spaces.
theorem map_spaced_plus (cs : List Char) :
    ((escape inForm cs).map plus).map spaced = escape inForm cs := by
  rw [List.map_map]
  refine (List.map_congr_left fun c mem => ?_).trans (List.map_id _)
  have unlike : c ≠ '+' := by
    rintro rfl
    exact not_mem_escape (by decide) (by decide) (by decide) _ mem
  by_cases space : c = ' '
  · rw [space]
    rfl
  · simp [plus, spaced, space, unlike]

theorem formText_injective {text other : String} (same : formText text = formText other) :
    text = other := by
  have lists := congrArg String.toList same
  rw [formText_eq, formText_eq] at lists
  have escaped := congrArg (List.map spaced) lists
  rw [map_spaced_plus, map_spaced_plus] at escaped
  exact String.toList_inj.mp (escape_injective (by decide) escaped)

theorem not_mem_formText {d : Char} (taken : inForm d = true) (sign : d ≠ '%') (mark : d ≠ '+')
    (digit : isHexDigit d = false) (text : String) : d ∉ (formText text).toList := by
  rw [formText_eq]
  intro mem
  obtain ⟨c, own, same⟩ := List.mem_map.mp mem
  unfold plus at same
  split at same
  · exact mark same.symm
  · rw [same] at own
    exact not_mem_escape taken sign digit _ own

end Reconcile.Url
