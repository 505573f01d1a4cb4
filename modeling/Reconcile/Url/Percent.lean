import Reconcile.Text.Ascii

namespace Reconcile.Url

-- A byte as a percent sign and two digits.
def escapeByte (b : UInt8) : List Char :=
  ['%', Text.upperHexDigit (b.toNat / 16), Text.upperHexDigit (b.toNat % 16)]

-- A character that a part of a URL cannot hold is written as the bytes of its UTF-8 form. No part
-- holds characters beyond ASCII.
def escapeChar (reserved : Char → Bool) (c : Char) : List Char :=
  if c.toNat < 0x80 && !reserved c then [c]
  else (String.utf8EncodeChar c).flatMap escapeByte

def escape (reserved : Char → Bool) (cs : List Char) : List Char := cs.flatMap (escapeChar reserved)

-- The bytes that a text stands for. A percent sign without two digits stands for itself.
def unescape : List Char → List UInt8
  | [] => []
  | '%' :: a :: b :: rest =>
    match Text.digitValue? 16 a, Text.digitValue? 16 b with
    | some high, some low => UInt8.ofNat (high * 16 + low) :: unescape rest
    | _, _ => String.utf8EncodeChar '%' ++ unescape (a :: b :: rest)
  | c :: rest => String.utf8EncodeChar c ++ unescape rest

def textOfBytes? (bytes : List UInt8) : Option String := String.fromUTF8? ⟨bytes.toArray⟩

def isControl (c : Char) : Bool := c.toNat < 0x20 || c.toNat = 0x7F

-- What is escaped in each part of a URL.
def inFragment (c : Char) : Bool := isControl c || " \"<>`".toList.contains c

def inQuery (c : Char) : Bool := isControl c || " \"#<>".toList.contains c

def inSpecialQuery (c : Char) : Bool := inQuery c || c = '\''

def inPath (c : Char) : Bool := inFragment c || "#?\x7b\x7d".toList.contains c

def inUserinfo (c : Char) : Bool := inPath c || "/:;=@[\\]^|".toList.contains c

-- A segment that is added to a path, so that it is read back as that one segment.
def inSegment (c : Char) : Bool := inPath c || c = '/' || c = '%'

def inSpecialSegment (c : Char) : Bool := inSegment c || c = '\\'

-- In a query of pairs, a space is a plus sign and few characters stand for themselves.
def isFormPlain (c : Char) : Bool :=
  Text.isLetter c || Text.isDigit c || "*-._".toList.contains c

def formChar (c : Char) : List Char :=
  if c = ' ' then ['+'] else escapeChar (!isFormPlain ·) c

def formText (text : String) : String := String.ofList (text.toList.flatMap formChar)

end Reconcile.Url
