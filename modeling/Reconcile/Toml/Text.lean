import Reconcile.Text.Ascii

namespace Reconcile.Toml

def isSpace (c : Char) : Bool := c = ' ' || c = '\t'

def skipSpace (cs : List Char) : List Char := cs.dropWhile isSpace

-- Any character but a control other than the tab.
def isPlain (c : Char) : Bool := c = '\t' || (0x20 ≤ c.toNat && c.toNat ≤ 0x7E) || 0x80 ≤ c.toNat

def isBasic (c : Char) : Bool := isPlain c && c ≠ '"' && c ≠ '\\'

def isLiteral (c : Char) : Bool := isPlain c && c ≠ '\''

-- A line feed, alone or after a carriage return.
def newline? : List Char → Option (List Char)
  | '\n' :: rest => some rest
  | '\r' :: '\n' :: rest => some rest
  | _ => none

-- What is left after a comment, which ends before its line does.
def skipComment : List Char → List Char
  | '#' :: rest => rest.dropWhile isPlain
  | cs => cs

-- The end of a line: space, perhaps a comment, and a new line or the end of the document.
def lineEnd? (cs : List Char) : Option (List Char) :=
  match skipComment (skipSpace cs) with
  | [] => some []
  | rest => newline? rest

-- Space, new lines and comments with the ends of their lines. A comment without one is left.
def skipLines : Nat → List Char → List Char
  | 0, cs => cs
  | fuel + 1, cs =>
    let body := skipSpace cs
    match newline? (skipComment body) with
    | some rest => skipLines fuel rest
    | none => body

-- The character of a code point in hexadecimal digits.
def codePoint? (digits : List Char) : Option Char :=
  (Text.ofDigits? 16 digits).bind fun n => if h : n.isValidChar then some (Char.ofNatAux n h) else none

def simpleEscape? : Char → Option Char
  | 'b' => some '\x08'
  | 't' => some '\t'
  | 'n' => some '\n'
  | 'f' => some '\x0c'
  | 'r' => some '\r'
  | '"' => some '"'
  | '\\' => some '\\'
  | _ => none

-- What an escape stands for, after its backslash.
def escape? : List Char → Option (Char × List Char)
  | 'u' :: rest =>
    if 4 ≤ rest.length then (codePoint? (rest.take 4)).map (·, rest.drop 4) else none
  | 'U' :: rest =>
    if 8 ≤ rest.length then (codePoint? (rest.take 8)).map (·, rest.drop 8) else none
  | c :: rest => (simpleEscape? c).map (·, rest)
  | [] => none

-- A string in double quotes, after the first: its characters in reverse are in `done`.
def basicText (done : List Char) : Nat → List Char → Option (String × List Char)
  | 0, _ => none
  | fuel + 1, cs =>
    match cs with
    | '"' :: rest => some (String.ofList done.reverse, rest)
    | '\\' :: rest => (escape? rest).bind fun (c, after) => basicText (c :: done) fuel after
    | c :: rest => if isBasic c then basicText (c :: done) fuel rest else none
    | [] => none

def literalText (done : List Char) : List Char → Option (String × List Char)
  | '\'' :: rest => some (String.ofList done.reverse, rest)
  | c :: rest => if isLiteral c then literalText (c :: done) rest else none
  | [] => none

-- Three quotes or more at the end of a text of several lines: up to two belong to the text.
def closing? (quote : Char) (cs : List Char) : Option (Nat × List Char) :=
  let count := (cs.takeWhile (· = quote)).length
  if 3 ≤ count then some (min (count - 3) 2, cs.drop (min count 5)) else none

-- A backslash at the end of a line takes away the new line and all space and new lines after it.
def continuation? (fuel : Nat) (cs : List Char) : Option (List Char) :=
  (newline? (skipSpace cs)).map (go fuel)
where
  go : Nat → List Char → List Char
    | 0, cs => cs
    | fuel + 1, cs =>
      match newline? (skipSpace cs) with
      | some rest => go fuel rest
      | none => skipSpace cs

-- A text of several lines in double quotes, after the first three. Its new lines are line feeds.
def basicLines (done : List Char) : Nat → List Char → Option (String × List Char)
  | 0, _ => none
  | fuel + 1, cs =>
    match closing? '"' cs, cs with
    | some (more, rest), _ =>
      some (String.ofList (List.replicate more '"' ++ done).reverse, rest)
    | none, '"' :: rest => basicLines ('"' :: done) fuel rest
    | none, '\\' :: rest =>
      match continuation? rest.length rest with
      | some after => basicLines done fuel after
      | none => (escape? rest).bind fun (c, after) => basicLines (c :: done) fuel after
    | none, c :: rest =>
      if isBasic c then basicLines (c :: done) fuel rest
      else (newline? cs).bind fun after => basicLines ('\n' :: done) fuel after
    | none, [] => none

def literalLines (done : List Char) : Nat → List Char → Option (String × List Char)
  | 0, _ => none
  | fuel + 1, cs =>
    match closing? '\'' cs, cs with
    | some (more, rest), _ =>
      some (String.ofList (List.replicate more '\'' ++ done).reverse, rest)
    | none, c :: rest =>
      if c = '\'' || isLiteral c then literalLines (c :: done) fuel rest
      else (newline? cs).bind fun after => literalLines ('\n' :: done) fuel after
    | none, [] => none

-- A new line right after the opening quotes is not part of the text.
def skipFirst (cs : List Char) : List Char := (newline? cs).getD cs

def text? (cs : List Char) : Option (String × List Char) :=
  match cs with
  | '"' :: '"' :: '"' :: rest => basicLines [] (cs.length + 1) (skipFirst rest)
  | '"' :: rest => basicText [] (cs.length + 1) rest
  | '\'' :: '\'' :: '\'' :: rest => literalLines [] (cs.length + 1) (skipFirst rest)
  | '\'' :: rest => literalText [] rest
  | _ => none

def isBareKey (c : Char) : Bool := Text.isLetter c || Text.isDigit c || c = '_' || c = '-'

def simpleKey? (cs : List Char) : Option (String × List Char) :=
  match cs with
  | '"' :: rest => basicText [] (cs.length + 1) rest
  | '\'' :: rest => literalText [] rest
  | _ =>
    let name := cs.takeWhile isBareKey
    if name.isEmpty then none else some (String.ofList name, cs.drop name.length)

-- How many parts a key has, or how many values lie in one another, at least when it is too many.
def nestingLimit : Nat := 80

-- The parts of a dotted key, with space around each.
def keyParts? : Nat → List Char → Option (List String × List Char)
  | 0, _ => none
  | fuel + 1, cs =>
    match simpleKey? (skipSpace cs) with
    | none => none
    | some (name, after) =>
      match skipSpace after with
      | '.' :: rest => (keyParts? fuel rest).map fun (more, last) => (name :: more, last)
      | rest => some ([name], rest)

def key? (cs : List Char) : Option (List String × List Char) :=
  (keyParts? (cs.length + 1) cs).filter fun (parts, _) => parts.length < nestingLimit

end Reconcile.Toml
