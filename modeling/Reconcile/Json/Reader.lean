import Reconcile.Text.Ascii
import Reconcile.Json.Numeral

namespace Reconcile.Json

-- A JSON text as it is written: the fields of an object in order and with repeated keys, numbers
-- as digits. A string is absent when an escape in it is half of a surrogate pair, which matters
-- only to a reader who wants its value.
inductive Written where
  | null
  | bool (value : Bool)
  | number (value : Numeral)
  | string (value : Option String)
  | array (items : List Written)
  | object (fields : List (Option String × Written))

inductive Token where
  | openArray | closeArray | openObject | closeObject | colon | comma
  | null
  | bool (value : Bool)
  | number (value : Numeral)
  | string (value : Option String)

def isSpace (c : Char) : Bool := c = ' ' || c = '\n' || c = '\t' || c = '\r'

-- Four hexadecimal digits of an escape.
def hexUnit? (digits : List Char) : Option Nat :=
  if digits.length = 4 then Text.ofDigits? 16 digits else none

-- The code point of a surrogate pair.
def pairValue (high low : Nat) : Nat := 0x10000 + (high - 0xD800) * 0x400 + (low - 0xDC00)

def isHigh (unit : Nat) : Bool := 0xD800 ≤ unit && unit ≤ 0xDBFF

def isLow (unit : Nat) : Bool := 0xDC00 ≤ unit && unit ≤ 0xDFFF

def simpleEscape? : Char → Option Char
  | '"' => some '"'
  | '\\' => some '\\'
  | '/' => some '/'
  | 'b' => some '\x08'
  | 'f' => some '\x0c'
  | 'n' => some '\n'
  | 'r' => some '\r'
  | 't' => some '\t'
  | _ => none

def addChar (text : Option (List Char)) (c : Char) : Option (List Char) := text.map (c :: ·)

-- Reads a string after its opening quote into the reversed characters and the rest. Control
-- characters and unknown escapes are refused; half a surrogate pair makes the value absent.
def readString (text : Option (List Char)) : List Char → Option (Option String × List Char)
  | [] => none
  | '"' :: rest => some (text.map fun cs => String.ofList cs.reverse, rest)
  | '\\' :: 'u' :: a :: b :: c :: d :: '\\' :: 'u' :: e :: f :: g :: h :: rest =>
    match hexUnit? [a, b, c, d] with
    | none => none
    | some unit =>
      if isHigh unit then
        match hexUnit? [e, f, g, h] with
        | none => none
        | some next =>
          if isLow next then readString (addChar text (Char.ofNat (pairValue unit next))) rest
          else readString none ('\\' :: 'u' :: e :: f :: g :: h :: rest)
      else if isLow unit then readString none ('\\' :: 'u' :: e :: f :: g :: h :: rest)
      else readString (addChar text (Char.ofNat unit)) ('\\' :: 'u' :: e :: f :: g :: h :: rest)
  | '\\' :: 'u' :: a :: b :: c :: d :: rest =>
    match hexUnit? [a, b, c, d] with
    | none => none
    | some unit =>
      readString (if isHigh unit || isLow unit then none else addChar text (Char.ofNat unit)) rest
  | '\\' :: c :: rest =>
    match simpleEscape? c with
    | none => none
    | some plain => readString (addChar text plain) rest
  | c :: rest => if c.toNat < 0x20 || c = '\\' then none else readString (addChar text c) rest
termination_by cs => cs.length

-- Digits at the front of a text.
def readDigits (cs : List Char) : List Nat × List Char :=
  ((cs.takeWhile Text.isDigit).map fun c => c.toNat - 48, cs.dropWhile Text.isDigit)

theorem readDigits_length (cs : List Char) : (readDigits cs).2.length ≤ cs.length :=
  (List.dropWhile_sublist _).length_le

-- An exponent, if one follows: at least one digit after `e` and an optional sign.
def readExponent (cs : List Char) : Option (Option (Bool × List Nat) × List Char) :=
  match cs with
  | e :: rest =>
    if e = 'e' || e = 'E' then
      let (negative, body) :=
        match rest with
        | '+' :: more => (false, more)
        | '-' :: more => (true, more)
        | more => (false, more)
      match readDigits body with
      | ([], _) => none
      | (digits, after) => some (some (negative, digits), after)
    else some (none, cs)
  | [] => some (none, cs)

-- A number: no zero before another digit, digits on both sides of a point.
def readNumber (cs : List Char) : Option (Numeral × List Char) :=
  let (negative, body) :=
    match cs with
    | '-' :: rest => (true, rest)
    | rest => (false, rest)
  match readDigits body with
  | ([], _) => none
  | (0 :: _ :: _, _) => none
  | (whole, '.' :: rest) =>
    match readDigits rest with
    | ([], _) => none
    | (fraction, after) =>
      (readExponent after).map fun (exponent, last) => (⟨negative, whole, fraction, exponent⟩, last)
  | (whole, rest) =>
    (readExponent rest).map fun (exponent, last) => (⟨negative, whole, [], exponent⟩, last)

def readWord (word : List Char) (token : Token) (cs : List Char) : Option (Token × List Char) :=
  if cs.take word.length = word then some (token, cs.drop word.length) else none

-- The token at the front of a text that starts with no space.
def readToken : List Char → Option (Token × List Char)
  | [] => none
  | '[' :: rest => some (.openArray, rest)
  | ']' :: rest => some (.closeArray, rest)
  | '\x7b' :: rest => some (.openObject, rest)
  | '\x7d' :: rest => some (.closeObject, rest)
  | ':' :: rest => some (.colon, rest)
  | ',' :: rest => some (.comma, rest)
  | '"' :: rest => (readString (some []) rest).map fun (s, after) => (.string s, after)
  | 'n' :: rest => readWord "null".toList .null ('n' :: rest)
  | 't' :: rest => readWord "true".toList (.bool true) ('t' :: rest)
  | 'f' :: rest => readWord "false".toList (.bool false) ('f' :: rest)
  | cs => (readNumber cs).map fun (n, after) => (.number n, after)

-- Every token takes at least one character, so a text has at most as many tokens as characters.
def tokensWithin : Nat → List Char → Option (List Token)
  | 0, cs => if cs.all isSpace then some [] else none
  | fuel + 1, cs =>
    match cs.dropWhile isSpace with
    | [] => some []
    | body =>
      match readToken body with
      | none => none
      | some (token, rest) => (tokensWithin fuel rest).map (token :: ·)

def tokens (text : String) : Option (List Token) := tokensWithin text.length text.toList

-- An array or object whose end has not been read yet, its parts in reverse.
inductive Frame where
  | array (done : List Written)
  | object (done : List (Option String × Written)) (key : Option String)

inductive Expecting where
  | value | valueOrClose | key | keyOrClose | colon | separator | nothing
deriving DecidableEq

structure Machine where
  frames : List Frame
  expecting : Expecting
  result : Option Written

namespace Machine

def start : Machine := ⟨[], .value, none⟩

-- A value is complete: it goes into the innermost open array or object, or it is the text.
def give (m : Machine) (value : Written) : Machine :=
  match m.frames with
  | [] => ⟨[], .nothing, some value⟩
  | .array done :: rest => ⟨.array (value :: done) :: rest, .separator, none⟩
  | .object done key :: rest => ⟨.object ((key, value) :: done) none :: rest, .separator, none⟩

def close (m : Machine) (token : Token) : Option Machine :=
  match token, m.frames with
  | .closeArray, .array done :: rest =>
    some (give ⟨rest, m.expecting, none⟩ (.array done.reverse))
  | .closeObject, .object done _ :: rest =>
    some (give ⟨rest, m.expecting, none⟩ (.object done.reverse))
  | _, _ => none

def take (m : Machine) (token : Token) : Option Machine :=
  match token with
  | .null => some (m.give .null)
  | .bool b => some (m.give (.bool b))
  | .number n => some (m.give (.number n))
  | .string s => some (m.give (.string s))
  | .openArray => some ⟨.array [] :: m.frames, .valueOrClose, none⟩
  | .openObject => some ⟨.object [] none :: m.frames, .keyOrClose, none⟩
  | _ => none

def takeKey (m : Machine) (token : Token) : Option Machine :=
  match token, m.frames with
  | .string s, .object done _ :: rest => some ⟨.object done s :: rest, .colon, none⟩
  | _, _ => none

def step (m : Machine) (token : Token) : Option Machine :=
  match m.expecting with
  | .nothing => none
  | .value => m.take token
  | .valueOrClose =>
    match token with
    | .closeArray => m.close token
    | _ => m.take token
  | .key => m.takeKey token
  | .keyOrClose =>
    match token with
    | .closeObject => m.close token
    | _ => m.takeKey token
  | .colon =>
    match token with
    | .colon => some { m with expecting := .value }
    | _ => none
  | .separator =>
    match token, m.frames with
    | .comma, .array _ :: _ => some { m with expecting := .value }
    | .comma, .object _ _ :: _ => some { m with expecting := .key }
    | _, _ => m.close token

end Machine

-- The text as written, if it is one JSON value with nothing but space around it.
def Written.ofText? (text : String) : Option Written :=
  match tokens text with
  | none => none
  | some list => (list.foldl (fun m t => m.bind (·.step t)) (some Machine.start)).bind (·.result)

-- How many arrays and objects may lie inside one another, the outermost included.
def depthLimit : Nat := 127

mutual
-- The value of a written text: of a repeated key the last value, no half surrogates, no number out
-- of range, and no more open arrays and objects than `depth`.
def Written.value? (depth : Nat) : Written → Option Json
  | .null => some .null
  | .bool b => some (.bool b)
  | .number n => n.value?.map .number
  | .string s => s.map .string
  | .array items => if depth = 0 then none else (Written.items? (depth - 1) items).map .array
  | .object fields =>
    if depth = 0 then none
    else (Written.fields? (depth - 1) fields).map fun fs => .object (Object.ofList fs)
def Written.items? (depth : Nat) : List Written → Option (List Json)
  | [] => some []
  | item :: rest =>
    match Written.value? depth item, Written.items? depth rest with
    | some v, some vs => some (v :: vs)
    | _, _ => none
def Written.fields? (depth : Nat) : List (Option String × Written) → Option (List (String × Json))
  | [] => some []
  | (key, value) :: rest =>
    match key, Written.value? depth value, Written.fields? depth rest with
    | some k, some v, some vs => some ((k, v) :: vs)
    | _, _, _ => none
end

def parse? (text : String) : Option Json := (Written.ofText? text).bind (·.value? depthLimit)

end Reconcile.Json
