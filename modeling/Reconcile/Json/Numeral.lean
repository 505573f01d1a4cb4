import Reconcile.Json.Value
import Reconcile.Word

namespace Reconcile.Json

-- A number as it is written: digits most significant first.
structure Numeral where
  negative : Bool
  whole : List Nat
  fraction : List Nat := []
  exponent : Option (Bool × List Nat) := none
deriving DecidableEq, Repr

namespace Numeral

def wordLimit : Nat := Word.count64 - 1

def exponentLimit : Nat := 2147483647

-- Digits are taken into a significand of 64 bits until the first one that does not fit; that one
-- and all after it are dropped. The counts are those of the digits taken and dropped.
structure Significand where
  value : Nat := 0
  taken : Nat := 0
  dropped : Nat := 0

def Significand.push (s : Significand) (digit : Nat) : Significand :=
  if s.dropped = 0 ∧ s.value * 10 + digit ≤ wordLimit then
    { s with value := s.value * 10 + digit, taken := s.taken + 1 }
  else { s with dropped := s.dropped + 1 }

-- A sum of exponents that stays within a signed word of 32 bits.
def clampExponent (e : Int) : Int := max (-(exponentLimit : Int) - 1) (min exponentLimit e)

-- The exponent that digits spell, or `none` when it leaves 32 bits.
def exponentOf? (digits : List Nat) : Option Nat :=
  digits.foldl
    (fun acc d => acc.bind fun e =>
      if e * 10 + d ≤ exponentLimit then some (e * 10 + d) else none)
    (some 0)

-- `significand * 10 ^ exponent` in binary64 arithmetic: one rounding for the significand and one
-- for each multiplication or division by a power of ten, which is exact only up to 10^22.
def scale : Nat → Float → Int → Option Float
  | 0, f, _ => some f
  | fuel + 1, f, exponent =>
    if exponent.natAbs ≤ 308 then
      let power := Float.ofScientific 1 false exponent.natAbs
      if 0 ≤ exponent then
        let product := f * power
        if product.isInf then none else some product
      else some (f / power)
    else if f == 0 then some f
    else if 0 ≤ exponent then none
    else scale fuel (f / Float.ofScientific 1 false 308) (exponent + 308)

def signed (negative : Bool) (f : Float) : Number := .float (if negative then -f else f).toBits

-- Two divisions by 10^308 make every significand zero, so four rounds are enough.
def ofParts (negative : Bool) (significand : Nat) (exponent : Int) : Option Number :=
  (scale 4 significand.toUInt64.toFloat exponent).map (signed negative)

-- The value of a numeral; `none` when it is out of range. Without point and exponent it is an
-- integer if a word holds it (minus zero is not an integer).
def value? (n : Numeral) : Option Number :=
  let whole := n.whole.foldl Significand.push {}
  if n.fraction.isEmpty && n.exponent.isNone && whole.dropped == 0 then
    if n.negative then
      if 0 < whole.value ∧ whole.value ≤ Word.half64 then some (.integer (-(whole.value : Int)))
      else some (signed true whole.value.toUInt64.toFloat)
    else some (.integer whole.value)
  else
    let all := n.fraction.foldl Significand.push { value := whole.value }
    let point : Int := (whole.dropped : Int) - (all.taken : Int)
    match n.exponent with
    | none => ofParts n.negative all.value point
    | some (negative, digits) =>
      match exponentOf? digits with
      | none => if all.value ≠ 0 ∧ negative = false then none else some (signed n.negative 0)
      | some e =>
        ofParts n.negative all.value (clampExponent (if negative then point - e else point + e))

end Numeral
end Reconcile.Json
