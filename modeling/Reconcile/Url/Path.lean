import Reconcile.Text.Split
import Reconcile.Url.Basic

namespace Reconcile.Url

-- Characters that a URL reader passes over.
def isIgnored (c : Char) : Bool := c = '\t' || c = '\n' || c = '\r'

-- A point, itself or escaped, at the front of a segment.
def afterDot? : List Char → Option (List Char)
  | '.' :: rest => some rest
  | '%' :: '2' :: e :: rest => if e = 'e' || e = 'E' then some rest else none
  | _ => none

def isDot (segment : List Char) : Bool := afterDot? segment = some []

def isDoubleDot (segment : List Char) : Bool := (afterDot? segment).bind afterDot? = some []

-- A letter and a colon or a bar, which names a drive.
def isDrive : List Char → Bool
  | [letter, mark] => Text.isLetter letter && (mark = ':' || mark = '|')
  | _ => false

-- The path one level up. A drive is never left.
def parent (segments : List (List Char)) : List (List Char) :=
  if (segments.getLast?.map isDrive).getD false then segments else segments.dropLast

def kept (cs : List Char) : List Char := cs.filter (!isIgnored ·)

-- A drive at the front of a piece, when ignored characters cut it off from the rest.
def cutDrive? (piece : List Char) : Option (List Char × List Char) :=
  match piece.dropWhile isIgnored with
  | [] => none
  | letter :: more =>
    match more.dropWhile isIgnored with
    | ':' :: mark :: rest =>
      if Text.isLetter letter && isIgnored mark && !(kept rest).isEmpty then
        some ([letter, ':'], kept rest)
      else none
    | _ => none

-- The segments so far, and whether the first of them is a drive that stands for the host.
structure Descent where
  segments : List (List Char) := []
  drive : Bool := false
deriving DecidableEq, Repr

-- A piece of a path: a point stays at its level, and two points lead one level up. The path of a file
-- may begin with a drive, which has a colon and, cut off from its piece, is a segment of its own.
def Descent.add (family : Family) (reserved : Char → Bool) (d : Descent) (piece : List Char) :
    Descent :=
  let segment := escape reserved (kept piece)
  if isDoubleDot segment then { d with segments := parent d.segments }
  else if isDot segment then d
  else if family = .file && d.segments.isEmpty then
    match cutDrive? piece with
    | some (drive, rest) => { d with segments := [drive, escape reserved rest] }
    | none =>
      if isDrive segment then ⟨[segment.take 1 ++ [':']], true⟩ else { d with segments := [segment] }
  else { d with segments := d.segments ++ [segment] }

-- Points at the end of a path are written as an empty segment. The path of a file has no empty
-- segments in front.
def Descent.finish (family : Family) (d : Descent) (last : List Char) : Descent :=
  let all := if isDot last || isDoubleDot last then d.segments ++ [[]] else d.segments
  if family = .file then
    match all.dropWhile (·.isEmpty) with
    | [] => { d with segments := [[]] }
    | rest => { d with segments := rest }
  else { d with segments := all }

-- Goes on from the segments above through the pieces of a path.
def descend (family : Family) (reserved : Char → Bool) (above : List (List Char))
    (pieces : List (List Char)) : Descent :=
  (pieces.foldl (Descent.add family reserved) { segments := above }).finish family
    (escape reserved (kept (pieces.getLastD [])))

def slashes (family : Family) (c : Char) : Bool := c = '/' || (family.isSpecial && c = '\\')

-- The path that the text after the first slash spells.
def pathOf (family : Family) (cs : List Char) : Descent :=
  descend family inPath [] (Text.split (slashes family) cs)

def segmentsOf (family : Family) (cs : List Char) : List (List Char) := (pathOf family cs).segments

-- Takes away an empty segment at the end, as after a slash that ends the path. The path of the
-- root alone is kept.
def popEmpty (segments : List (List Char)) : List (List Char) :=
  if 1 < segments.length ∧ segments.getLast? = some [] then segments.dropLast else segments

-- Adds a segment to a path. The segments `.` and `..` are passed over. The path of the root alone
-- takes the segment as its only one.
def push (family : Family) (segments : List (List Char)) (text : String) : List (List Char) :=
  if text = "." ∨ text = ".." then segments
  else
    let above := if segments = [[]] then [] else segments
    (descend family (if family.isSpecial then inSpecialSegment else inSegment) above
      [text.toList]).segments

def extend (family : Family) (segments : List (List Char)) (texts : List String) :
    List (List Char) :=
  texts.foldl (push family) segments

-- Adds a pair to the query.
def withPair (u : Url) (key value : String) : Url :=
  let pair := (formText key ++ "=" ++ formText value).toList
  match u.query with
  | none | some [] => { u with query := some pair }
  | some query => { u with query := some (query ++ '&' :: pair) }

end Reconcile.Url
