import Reconcile.Text.Ascii
import Reconcile.Json.Value
import Reconcile.Json.Decimal

namespace Reconcile.Json

-- A character inside a string: quotes, backslashes and control characters are escaped, the five
-- controls with a letter of their own by it, and nothing else.
def escapeChar (c : Char) : List Char :=
  if c = '"' then ['\\', '"']
  else if c = '\\' then ['\\', '\\']
  else if c = '\n' then ['\\', 'n']
  else if c = '\r' then ['\\', 'r']
  else if c = '\t' then ['\\', 't']
  else if c = '\x08' then ['\\', 'b']
  else if c = '\x0c' then ['\\', 'f']
  else if c.toNat < 0x20 then
    ['\\', 'u', '0', '0', Text.lowerHexDigit (c.toNat / 16), Text.lowerHexDigit (c.toNat % 16)]
  else [c]

def writeString (text : String) : String :=
  "\"" ++ String.ofList (text.toList.flatMap escapeChar) ++ "\""

def writeNumber : Number → String
  | .integer n => toString n
  | .float bits => writeBinary bits

mutual
-- Without spaces, fields in the order of the object.
def write : Json → String
  | .null => "null"
  | .bool true => "true"
  | .bool false => "false"
  | .number n => writeNumber n
  | .string s => writeString s
  | .array items => "[" ++ ",".intercalate (writeItems items) ++ "]"
  | .object fields => "\x7b" ++ ",".intercalate (writeFields fields) ++ "\x7d"
def writeItems : List Json → List String
  | [] => []
  | item :: rest => write item :: writeItems rest
def writeFields : List (String × Json) → List String
  | [] => []
  | (key, value) :: rest => (writeString key ++ ":" ++ write value) :: writeFields rest
end

end Reconcile.Json
