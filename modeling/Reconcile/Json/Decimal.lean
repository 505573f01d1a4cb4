import Reconcile.Word

namespace Reconcile.Json

-- A finite binary64 number without its sign: `mantissa * 2 ^ exponent`.
structure Binary where
  mantissa : Nat
  exponent : Int
deriving DecidableEq, Repr

namespace Binary

-- The least mantissa of every exponent but the first.
def leastNormal : Nat := 4503599627370496

def isNegative (bits : UInt64) : Bool := 0x8000000000000000 ≤ bits

-- The bits without the sign, infinities and NaNs read as if the exponents went on.
def ofBits (bits : UInt64) : Binary :=
  let n : Nat := bits.toNat % Word.half64
  let field : Nat := n / leastNormal
  if field = 0 then ⟨n % leastNormal, -1074⟩
  else ⟨n % leastNormal + leastNormal, (field : Int) - 1075⟩

end Binary

-- Decimal digits of a positive number: `digits * 10 ^ exponent`, the digits as one number.
structure Decimal where
  digits : Nat
  exponent : Int
deriving DecidableEq, Repr

namespace Decimal

-- A fraction `top / bottom` with positive bottom.
def scaled (b : Binary) (shift : Int) : Nat × Nat :=
  let two := b.exponent
  let top := b.mantissa * Nat.pow 2 two.toNat * Nat.pow 10 (-shift).toNat
  let bottom := Nat.pow 2 (-two).toNat * Nat.pow 10 shift.toNat
  (top, bottom)

-- The real numbers that round to `b`, as bounds in quarters of its last place. Below the least
-- mantissa of an exponent the neighbours lie twice as close.
def lowQuarters (b : Binary) : Nat :=
  if b.mantissa = Binary.leastNormal ∧ b.exponent ≠ -1074 then 4 * b.mantissa - 1
  else 4 * b.mantissa - 2

def highQuarters (b : Binary) : Nat := 4 * b.mantissa + 2

-- Whether `digits * 10 ^ shift` reads back as `b`: the ends count iff the mantissa is even.
def readsBack (b : Binary) (digits : Nat) (shift : Int) : Bool :=
  let value := digits * Nat.pow 10 shift.toNat * Nat.pow 2 (-b.exponent).toNat * 4
  let unit := Nat.pow 2 b.exponent.toNat * Nat.pow 10 (-shift).toNat
  let low := lowQuarters b * unit
  let high := highQuarters b * unit
  if b.mantissa % 2 = 0 then low ≤ value && value ≤ high else low < value && value < high

-- The position of the leading digit: the `k` with `10 ^ k ≤ b < 10 ^ (k + 1)`, started from an
-- estimate that is at most one too low.
def leading (b : Binary) : Int :=
  let bitLength : Int := Nat.log2 b.mantissa + b.exponent
  let estimate := (bitLength * 30103) / 100000 - 1
  let grows (k : Int) : Bool :=
    let (top, bottom) := scaled b (k + 1)
    bottom ≤ top
  if grows estimate then (if grows (estimate + 1) then estimate + 2 else estimate + 1) else estimate

-- Of the two neighbours of `b` on the grid of `count` digits the one that reads back, the nearer
-- if both do, the even one on a tie.
def onGrid? (b : Binary) (count : Nat) : Option Decimal :=
  let shift := leading b - (count : Int) + 1
  let (top, bottom) := scaled b shift
  let below := top / bottom
  let rest := top % bottom
  let above := below + 1
  match readsBack b below shift, readsBack b above shift with
  | true, true =>
    let nearer :=
      if 2 * rest < bottom then below
      else if 2 * rest = bottom then (if below % 2 = 0 then below else above)
      else above
    some ⟨nearer, shift⟩
  | true, false => some ⟨below, shift⟩
  | false, true => some ⟨above, shift⟩
  | false, false => none

-- The fewest digits that read back as `b`; seventeen always do.
def shortest (b : Binary) : Decimal :=
  ((List.range 17).findSome? fun n => onGrid? b (n + 1)).getD ⟨b.mantissa, b.exponent⟩

def dropZeros : Nat → Nat → Int → Decimal
  | 0, digits, exponent => ⟨digits, exponent⟩
  | fuel + 1, digits, exponent =>
    if digits % 10 = 0 ∧ digits ≠ 0 then dropZeros fuel (digits / 10) (exponent + 1)
    else ⟨digits, exponent⟩

end Decimal

-- How a number that is no integer is written: positional from 1e-5 up to below 1e16, else with an
-- exponent; always with a point or an exponent, so that it is never read as an integer.
def writeBinary (bits : UInt64) : String :=
  let sign := if Binary.isNegative bits then "-" else ""
  let b := Binary.ofBits bits
  if b.mantissa = 0 then sign ++ "0.0"
  else
    let raw := Decimal.shortest b
    let d := Decimal.dropZeros 20 raw.digits raw.exponent
    let text := toString d.digits
    let count := text.length
    let point : Int := d.exponent + count
    let zeros (n : Int) : String := String.ofList (List.replicate n.toNat '0')
    sign ++
      (if 0 ≤ d.exponent && point ≤ 16 then text ++ zeros d.exponent ++ ".0"
      else if 0 < point && point ≤ 16 then
        String.ofList (text.toList.take point.toNat) ++ "." ++
          String.ofList (text.toList.drop point.toNat)
      else if -5 < point && point ≤ 0 then "0." ++ zeros (-point) ++ text
      else if count = 1 then text ++ "e" ++ toString (point - 1)
      else
        String.ofList (text.toList.take 1) ++ "." ++ String.ofList (text.toList.drop 1) ++ "e" ++
          toString (point - 1))

end Reconcile.Json
