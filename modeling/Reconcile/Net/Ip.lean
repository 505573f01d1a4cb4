import Reconcile.Text.Ascii
import Reconcile.Text.Split

namespace Reconcile.Net

-- A number of at most three decimal digits without leading zeros, below 256.
def octet? (digits : List Char) : Option Nat :=
  if digits.isEmpty ∨ 3 < digits.length ∨ (1 < digits.length ∧ digits.head? = some '0') then none
  else (Text.ofDigits? 10 digits).filter (· < 256)

-- Four octets with points between them.
def quad? (cs : List Char) : Option (List Nat) :=
  match Text.split (· = '.') cs with
  | [a, b, c, d] => [a, b, c, d].mapM octet?
  | _ => none

def quadText (octets : List Nat) : String := ".".intercalate (octets.map toString)

namespace Ipv6

-- One to four hexadecimal digits.
def piece? (digits : List Char) : Option Nat :=
  if digits.isEmpty ∨ 4 < digits.length then none else Text.ofDigits? 16 digits

-- Pieces with colons between them, none for the empty text.
def pieces? (cs : List Char) : Option (List Nat) :=
  if cs.isEmpty then some [] else (Text.split (· = ':') cs).mapM piece?

-- The same, except that four octets may stand for the last two pieces.
def lastPieces? (cs : List Char) : Option (List Nat) :=
  if cs.isEmpty then some []
  else
    let parts := Text.split (· = ':') cs
    match parts.getLast? with
    | none => none
    | some last =>
      match quad? last with
      | some [a, b, c, d] => do
        let front ← parts.dropLast.mapM piece?
        return front ++ [a * 256 + b, c * 256 + d]
      | _ => parts.mapM piece?

-- What stands before and after the first double colon.
def halves? : List Char → Option (List Char × List Char)
  | ':' :: ':' :: rest => some ([], rest)
  | c :: rest => (halves? rest).map fun (before, after) => (c :: before, after)
  | [] => none

-- Eight pieces; a double colon stands for one zero or more.
def parse? (cs : List Char) : Option (List Nat) :=
  match halves? cs with
  | none => (lastPieces? cs).filter (·.length = 8)
  | some (before, after) => do
    let front ← pieces? before
    let back ← lastPieces? after
    if front.length + back.length < 8 then
      some (front ++ List.replicate (8 - front.length - back.length) 0 ++ back)
    else none

-- How many zeros the pieces begin with.
def zeros (pieces : List Nat) : Nat := (pieces.takeWhile (· = 0)).length

-- Where the longest run of two zeros or more begins, the first of equally long ones, and its length.
def longestRun (pieces : List Nat) : Option (Nat × Nat) :=
  (List.range pieces.length).foldl (fun best i =>
    let length := zeros (pieces.drop i)
    if length < 2 then best
    else match best with
      | none => some (i, length)
      | some (_, longest) => if longest < length then some (i, length) else best) none

def join (pieces : List Nat) : String :=
  ":".intercalate (pieces.map fun p => String.ofList (Text.hexDigits 4 p))

-- Without leading zeros, the longest run of zeros left out.
def text (pieces : List Nat) : String :=
  match longestRun pieces with
  | none => join pieces
  | some (start, length) => join (pieces.take start) ++ "::" ++ join (pieces.drop (start + length))

end Ipv6
end Reconcile.Net
