import Reconcile.Text.Split
import Reconcile.Unicode.Composition
import Reconcile.Unicode.Direction
import Reconcile.Unicode.Joining
import Reconcile.Url.Folding
import Reconcile.Url.Percent
import Reconcile.Url.Punycode

namespace Reconcile.Url.Domain

-- What cannot be part of a domain once it is unescaped.
def forbidden (c : Char) : Bool :=
  isControl c || c = ' ' || "%#/:<>?@[]^|\\".toList.contains c

def isAscii (c : Char) : Bool := c.toNat < 0x80

-- The form in which domains are compared. There is none when a character cannot be part of a domain.
def folded? (cs : List Char) : Option (List Char) := do
  let folded := Unicode.composed (← Folding.text? cs)
  if folded.any forbidden then none else return folded

-- Whether the first letter on one side of a joiner is joined to it. Marks are passed over.
def reaches (side : Unicode.Joining) : List Char → Bool
  | [] => false
  | c :: rest =>
    match Unicode.joining c with
    | .transparent => reaches side rest
    | .dual => true
    | joining => joining = side

-- Joiners show nothing for themselves. They are allowed after a sign that takes the vowel from its
-- letter, and one that keeps letters apart also between letters that would be joined without it.
-- `before` is the text before, the nearest first.
def joinersFit (before : List Char) : List Char → Bool
  | [] => true
  | c :: rest =>
    let after := before.head?.any Unicode.isVirama
    let fits :=
      if c = '\u200D' then after
      else if c = '\u200C' then after || reaches .left before && reaches .right rest
      else true
    fits && joinersFit (c :: before) rest

-- The most letters of a label that is to be encoded, and the most of one that is encoded.
def plainLimit : Nat := 1000

def encodedLimit : Nat := 2000

def isLabel (label : List Char) : Bool :=
  !(label.head?.any Unicode.isMark) && joinersFit [] label &&
    (label.all isAscii || label.length ≤ plainLimit)

-- The label that a folded one is written for. One that is encoded stands for a label beyond ASCII,
-- in the form in which domains are compared.
def label? (written : List Char) : Option (List Char) := do
  let label ← match written with
    | 'x' :: 'n' :: '-' :: '-' :: digits =>
      if !digits.all isAscii || encodedLimit < digits.length then none
      else (Punycode.decode? digits).filter fun label =>
        !label.all isAscii && folded? label = some label
    | _ => some written
  if isLabel label then return label else none

-- Whether the letters of a label run in one direction: to the right with European numbers, or to the
-- left with numbers of one kind. Marks at the end follow what stands before them.
def isDirected (label : List Char) : Bool :=
  match label.map Unicode.direction with
  | [] => true
  | first :: rest =>
    let rest := (rest.reverse.dropWhile (· = .mark)).reverse
    match first with
    | .left =>
      rest.all (fun d => d = .left || d = .europeanNumber || d = .neutral || d = .mark) &&
        rest.getLast?.all (· ≠ .neutral)
    | .right =>
      rest.all (· ≠ .left) && rest.getLast?.all (· ≠ .neutral) &&
        !(rest.contains .europeanNumber && rest.contains .arabicNumber)
    | _ => false

-- A domain with a letter that runs to the left has to be clear in all its labels.
def isClear (labels : List (List Char)) : Bool :=
  let leftward := labels.flatten.any fun c =>
    let d := Unicode.direction c
    d = .right || d = .arabicNumber
  !leftward || labels.all isDirected

def ascii (label : List Char) : List Char :=
  if label.all isAscii then label else "xn--".toList ++ Punycode.encode label

-- The ASCII form of a domain.
def ascii? (name : String) : Option (List Char) := do
  let labels ← (Text.split (· = '.') (← folded? name.toList)).mapM label?
  if isClear labels then return ['.'].intercalate (labels.map ascii) else none

end Reconcile.Url.Domain
