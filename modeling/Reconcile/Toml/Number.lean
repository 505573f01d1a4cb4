import Reconcile.Text.Ascii
import Reconcile.Word

namespace Reconcile.Toml

-- Digits at the front of a text, in which a single underscore may stand between two digits.
def digits (isDigit : Char → Bool) : List Char → List Char × List Char
  | [] => ([], [])
  | '_' :: c :: rest =>
    if isDigit c then
      let (more, after) := digits isDigit rest
      (c :: more, after)
    else ([], '_' :: c :: rest)
  | c :: rest =>
    if isDigit c then
      let (more, after) := digits isDigit rest
      (c :: more, after)
    else ([], c :: rest)

-- The same, but the first character is a digit.
def someDigits? (isDigit : Char → Bool) : List Char → Option (List Char × List Char)
  | c :: rest =>
    if isDigit c then
      let (more, after) := digits isDigit rest
      some (c :: more, after)
    else none
  | [] => none

def sign : List Char → Bool × List Char
  | '-' :: rest => (true, rest)
  | '+' :: rest => (false, rest)
  | rest => (false, rest)

-- A whole number in decimal digits: nothing follows a leading zero.
def decimal? (cs : List Char) : Option ((Bool × List Char) × List Char) :=
  let (negative, body) := sign cs
  match body with
  | '0' :: rest => some ((negative, ['0']), rest)
  | _ => (someDigits? Text.isDigit body).map fun (ds, rest) => ((negative, ds), rest)

-- Integers are signed words of 64 bits.
def inRange (n : Int) : Bool := -(Word.half64 : Int) ≤ n && n < Word.half64

def based? (base : Nat) (cs : List Char) : Option (Int × List Char) :=
  match someDigits? (fun c => (Text.digitValue? base c).isSome) cs with
  | none => none
  | some (ds, rest) =>
    (Text.ofDigits? base ds).bind fun n => if inRange n then some ((n : Int), rest) else none

def integer? (cs : List Char) : Option (Int × List Char) :=
  match cs with
  | '0' :: 'x' :: rest => based? 16 rest
  | '0' :: 'o' :: rest => based? 8 rest
  | '0' :: 'b' :: rest => based? 2 rest
  | _ =>
    match decimal? cs with
    | none => none
    | some ((negative, ds), rest) =>
      (Text.ofDigits? 10 ds).bind fun (n : Nat) =>
        let value : Int := if negative then -n else n
        if inRange value then some (value, rest) else none

-- Whether significant digits times a power of ten are beyond the largest binary64 number. Outside
-- a band around it the number of digits decides.
def overflows (ds : List Char) (exponent : Int) : Bool :=
  let significant := ds.dropWhile (· = '0')
  let value := (Text.ofDigits? 10 significant).getD 0
  let magnitude := exponent + significant.length
  if significant.isEmpty || magnitude < 308 then false
  else if 310 < magnitude then true
  else
    let limit : Nat := Nat.pow 2 1024 - Nat.pow 2 970
    if 0 ≤ exponent then limit ≤ value * Nat.pow 10 exponent.toNat
    else limit * Nat.pow 10 exponent.natAbs ≤ value

-- An exponent after its letter.
def exponent? (cs : List Char) : Option (Int × List Char) :=
  let (negative, body) := sign cs
  (someDigits? Text.isDigit body).bind fun (ds, rest) =>
    (Text.ofDigits? 10 ds).map fun (n : Nat) => ((if negative then -(n : Int) else n), rest)

-- A number with a fraction or an exponent. One that is too large for binary64 is refused, unless
-- it is negative.
def fractional? (cs : List Char) : Option (List Char) :=
  match decimal? cs with
  | none => none
  | some ((negative, whole), rest) =>
    let finish (fraction : List Char) (exponent : Int) (after : List Char) : Option (List Char) :=
      if !negative && overflows (whole ++ fraction) (exponent - fraction.length) then none
      else some after
    match rest with
    | '.' :: more =>
      match someDigits? Text.isDigit more with
      | none => none
      | some (fraction, after) =>
        match after with
        | 'e' :: tail | 'E' :: tail =>
          (exponent? tail).bind fun (exponent, last) => finish fraction exponent last
        | _ => finish fraction 0 after
    | 'e' :: tail | 'E' :: tail =>
      (exponent? tail).bind fun (exponent, last) => finish [] exponent last
    | _ => none

def float? (cs : List Char) : Option (List Char) :=
  match fractional? cs with
  | some rest => some rest
  | none =>
    match (sign cs).2 with
    | 'i' :: 'n' :: 'f' :: rest => some rest
    | 'n' :: 'a' :: 'n' :: rest => some rest
    | _ => none

-- A number of exactly so many digits.
def fixed? (width : Nat) (cs : List Char) : Option (Nat × List Char) :=
  let front := cs.take width
  if front.length = width ∧ front.all Text.isDigit = true then
    (Text.ofDigits? 10 front).map (·, cs.drop width)
  else none

def fixedWithin? (width low high : Nat) (cs : List Char) : Option (List Char) :=
  (fixed? width cs).bind fun (n, rest) => if low ≤ n ∧ n ≤ high then some rest else none

def char? (c : Char) : List Char → Option (List Char)
  | d :: rest => if c = d then some rest else none
  | [] => none

def isLeap (year : Nat) : Bool := year % 4 = 0 && (year % 100 ≠ 0 || year % 400 = 0)

def daysIn (year month : Nat) : Nat :=
  if month = 2 then (if isLeap year then 29 else 28)
  else if month = 4 ∨ month = 6 ∨ month = 9 ∨ month = 11 then 30
  else 31

def day? (cs : List Char) : Option (List Char) := do
  let (year, cs) ← fixed? 4 cs
  let cs ← char? '-' cs
  let (month, cs) ← fixed? 2 cs
  if month < 1 ∨ 12 < month then none
  else
    let cs ← char? '-' cs
    fixedWithin? 2 1 (daysIn year month) cs

-- A leap second is a second.
def time? (cs : List Char) : Option (List Char) := do
  let cs ← fixedWithin? 2 0 23 cs
  let cs ← char? ':' cs
  let cs ← fixedWithin? 2 0 59 cs
  let cs ← char? ':' cs
  let cs ← fixedWithin? 2 0 60 cs
  match cs with
  | '.' :: rest =>
    let fraction := rest.takeWhile Text.isDigit
    return if fraction.isEmpty then cs else rest.drop fraction.length
  | _ => return cs

def offset? : List Char → Option (List Char)
  | 'Z' :: rest | 'z' :: rest => some rest
  | '+' :: rest | '-' :: rest => do
    let rest ← fixedWithin? 2 0 23 rest
    let rest ← char? ':' rest
    fixedWithin? 2 0 59 rest
  | _ => none

-- A day, a time, or both, and only then with an offset.
def date? (cs : List Char) : Option (List Char) :=
  match day? cs with
  | none => time? cs
  | some rest =>
    match rest with
    | 'T' :: more | 't' :: more | ' ' :: more =>
      match time? more with
      | none => some rest
      | some after => some ((offset? after).getD after)
    | _ => some rest

end Reconcile.Toml
