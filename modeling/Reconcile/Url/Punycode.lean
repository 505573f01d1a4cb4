import Reconcile.Text.Ascii
import Reconcile.Word

namespace Reconcile.Url.Punycode

-- Labels of letters beyond ASCII are written as the ASCII letters they hold and the differences
-- between the others, in increasing order, in digits of base 36.
def digit (d : Nat) : Char := if d < 26 then Char.ofNat (97 + d) else Char.ofNat (22 + d)

def threshold (position bias : Nat) : Nat :=
  if position ≤ bias then 1 else if bias + 26 ≤ position then 26 else position - bias

def shrink (delta : Nat) : Nat → Nat → Nat × Nat
  | 0, k => (delta, k)
  | fuel + 1, k => if 455 < delta then shrink (delta / 35) fuel (k + 36) else (delta, k)

-- The next bias, from the difference that was written and the number of letters so far.
def adapt (delta count : Nat) (first : Bool) : Nat :=
  let start := if first then delta / 700 else delta / 2
  let (small, k) := shrink (start + start / count) start 0
  k + 36 * small / (small + 38)

-- A difference in digits. The threshold is at least 1, so it shrinks with every digit.
def number (bias : Nat) : Nat → Nat → Nat → List Char
  | 0, _, _ => []
  | fuel + 1, position, q =>
    let t := threshold position bias
    if q < t then [digit q]
    else digit (t + (q - t) % (36 - t)) :: number bias fuel (position + 36) ((q - t) / (36 - t))

structure State where
  out : List Char
  delta : Nat
  bias : Nat
  count : Nat

-- A letter of the label while `point` is being written.
def pass (basic point : Nat) (s : State) (c : Char) : State :=
  if c.toNat < point then { s with delta := s.delta + 1 }
  else if c.toNat = point then
    ⟨s.out ++ number s.bias (s.delta + 1) 36 s.delta, 0,
      adapt s.delta (s.count + 1) (s.count = basic), s.count + 1⟩
  else s

def rounds (label : List Char) (basic : Nat) : List Nat → Nat → State → State
  | [], _, s => s
  | point :: rest, last, s =>
    let raised := { s with delta := s.delta + (point - last) * (s.count + 1) }
    let passed := label.foldl (pass basic point) raised
    rounds label basic rest (point + 1) { passed with delta := passed.delta + 1 }

def encode (label : List Char) : List Char :=
  let basic := label.filter (·.toNat < 0x80)
  let others := ((label.filter (0x80 ≤ ·.toNat)).map (·.toNat)).mergeSort.eraseDups
  let front := if basic.isEmpty then [] else basic ++ ['-']
  front ++ (rounds label basic.length others 0x80 ⟨[], 0, 72, basic.length⟩).out

def digitValue? (c : Char) : Option Nat :=
  if Text.isLower c then some (c.toNat - 97)
  else if Text.isDigit c then some (c.toNat - 22)
  else none

-- A difference at the front of a text, and what follows it. Its digits weigh less than a word of 32
-- bits can count.
def number? (bias : Nat) : (position weight value : Nat) → List Char → Option (Nat × List Char)
  | _, _, _, [] => none
  | position, weight, value, c :: rest =>
    match digitValue? c with
    | none => none
    | some d =>
      let next := value + d * weight
      let t := threshold position bias
      if d < t then some (next, rest)
      else if Word.count32 ≤ weight * (36 - t) then none
      else number? bias (position + 36) (weight * (36 - t)) next rest

-- Puts the letters that the differences stand for between those that are there. Every difference
-- takes a digit at least.
def fill (basic : Nat) : (fuel point place bias : Nat) → (out cs : List Char) → Option (List Char)
  | _, _, _, _, out, [] => some out
  | 0, _, _, _, _, _ => none
  | fuel + 1, point, place, bias, out, cs =>
    match number? bias 36 1 0 cs with
    | none => none
    | some (delta, rest) =>
      let count := out.length + 1
      let letter := point + (place + delta) / count
      let position := (place + delta) % count
      if h : letter.isValidChar then
        fill basic fuel letter (position + 1) (adapt delta count (out.length = basic))
          (out.take position ++ Char.ofNatAux letter h :: out.drop position) rest
      else none

-- The label that an encoded text stands for. What comes before the last hyphen is kept, and that is
-- one letter at least.
def decode? (cs : List Char) : Option (List Char) :=
  let basic := (cs.reverse.dropWhile (· ≠ '-')).drop 1 |>.reverse
  let rest := if basic.isEmpty then cs else (cs.reverse.takeWhile (· ≠ '-')).reverse
  fill basic.length rest.length 0x80 0 72 basic rest

end Reconcile.Url.Punycode
