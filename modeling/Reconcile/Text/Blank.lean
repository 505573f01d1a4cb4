namespace Reconcile.Text

-- The characters with the Unicode property White_Space, as closed code point ranges.
def blankRanges : List (Nat × Nat) :=
  [(0x09, 0x0D), (0x20, 0x20), (0x85, 0x85), (0xA0, 0xA0), (0x1680, 0x1680), (0x2000, 0x200A),
    (0x2028, 0x2029), (0x202F, 0x202F), (0x205F, 0x205F), (0x3000, 0x3000)]

def isBlankChar (c : Char) : Bool :=
  blankRanges.any fun range => range.1 ≤ c.toNat && c.toNat ≤ range.2

-- A text is blank when nothing is left of it once its white space is gone. Zero-width
-- characters are not white space: a name made of them is a name.
def isBlank (text : String) : Bool := text.toList.all isBlankChar

theorem isBlank_iff (text : String) :
    isBlank text = true ↔ ∀ c ∈ text.toList, isBlankChar c = true := by
  simp [isBlank]

theorem isBlank_empty : isBlank "" = true := by simp [isBlank]

theorem blankRanges_count :
    blankRanges.foldl (fun n range => n + (range.2 - range.1 + 1)) 0 = 25 := by decide

theorem isBlankChar_of_isWhitespace (c : Char) (h : c.isWhitespace = true) :
    isBlankChar c = true := by
  simp only [Char.isWhitespace, Bool.or_eq_true, decide_eq_true_eq] at h
  rcases h with ((rfl | rfl) | rfl) | rfl <;> decide

end Reconcile.Text
