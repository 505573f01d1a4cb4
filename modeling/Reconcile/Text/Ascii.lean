namespace Reconcile.Text

-- Lower case for the letters A to Z only: every other character is kept, also a letter that has
-- a lower case elsewhere in Unicode.
def lowerAsciiChar (c : Char) : Char :=
  if 'A' ≤ c ∧ c ≤ 'Z' then Char.ofNat (c.toNat + 32) else c

def lowerAscii (text : String) : String := String.ofList (text.toList.map lowerAsciiChar)

def isDigit (c : Char) : Bool := '0' ≤ c && c ≤ '9'

def isLower (c : Char) : Bool := 'a' ≤ c && c ≤ 'z'

def isUpper (c : Char) : Bool := 'A' ≤ c && c ≤ 'Z'

def isLetter (c : Char) : Bool := isLower c || isUpper c

-- The value of a digit in a base of at most sixteen, in either case.
def digitValue? (base : Nat) (c : Char) : Option Nat :=
  let value :=
    if isDigit c then some (c.toNat - 48)
    else if 'a' ≤ c && c ≤ 'f' then some (c.toNat - 87)
    else if 'A' ≤ c && c ≤ 'F' then some (c.toNat - 55)
    else none
  value.filter (· < base)

-- The number that digits spell, most significant first; `none` when one is no digit of the base.
def ofDigits? (base : Nat) (digits : List Char) : Option Nat :=
  digits.foldl (fun acc c => acc.bind fun n => (digitValue? base c).map (n * base + ·)) (some 0)

def upperHexDigit (n : Nat) : Char := if n < 10 then Char.ofNat (48 + n) else Char.ofNat (55 + n)

def lowerHexDigit (n : Nat) : Char := if n < 10 then Char.ofNat (48 + n) else Char.ofNat (87 + n)

-- A number in hexadecimal digits, most significant first. Digits beyond `width` are left out.
def hexDigits : (width n : Nat) → List Char
  | 0, _ => []
  | width + 1, n =>
    if n < 16 then [lowerHexDigit n] else hexDigits width (n / 16) ++ [lowerHexDigit (n % 16)]

theorem lowerAsciiChar_of_not_upper {c : Char} (h : isUpper c = false) : lowerAsciiChar c = c := by
  unfold lowerAsciiChar
  split
  · rename_i upper
    simp [isUpper, upper] at h
  · rfl

end Reconcile.Text
