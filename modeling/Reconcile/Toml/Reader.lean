import Reconcile.Toml.Node
import Reconcile.Toml.Text
import Reconcile.Toml.Number

namespace Reconcile.Toml

-- A number or a date, whichever is read first in this order: dates, fractions, integers.
def numeric? (cs : List Char) : Option (Node × List Char) :=
  match date? cs with
  | some rest => some (.date, rest)
  | none =>
    match float? cs with
    | some rest => some (.float, rest)
    | none => (integer? cs).map fun (n, rest) => (.integer n, rest)

def word? (word : List Char) (node : Node) (cs : List Char) : Option (Node × List Char) :=
  if cs.take word.length = word then some (node, cs.drop word.length) else none

mutual
-- The value at the front of a text, inside so many lists and tables in braces.
def value? (fuel depth : Nat) (cs : List Char) : Option (Node × List Char) :=
  match fuel with
  | 0 => none
  | fuel + 1 =>
    match cs with
    | [] => none
    | '[' :: rest =>
      if depth + 1 < nestingLimit then
        (items? fuel (depth + 1) rest).map fun (items, after) => (.list items, after)
      else none
    | '\x7b' :: rest =>
      if depth + 1 < nestingLimit then
        match skipSpace rest with
        | '\x7d' :: after => some (.table .inline [], after)
        | _ => pairs? fuel (depth + 1) (.table .inline []) rest
      else none
    | c :: _ =>
      if c = '"' || c = '\'' then (text? cs).map fun (text, after) => (.text text, after)
      else if c = '+' || c = '-' || Text.isDigit c then numeric? cs
      else if c = 't' then word? "true".toList (.truth true) cs
      else if c = 'f' then word? "false".toList (.truth false) cs
      else if c = 'i' then word? "inf".toList .float cs
      else if c = 'n' then word? "nan".toList .float cs
      else none

-- The items of a list up to its end. The list may end at once or after a comma.
def items? (fuel depth : Nat) (cs : List Char) : Option (List Node × List Char) :=
  match fuel with
  | 0 => none
  | fuel + 1 =>
    match skipLines cs.length cs with
    | ']' :: rest => some ([], rest)
    | body =>
      match value? fuel depth body with
      | none => none
      | some (item, after) =>
        match skipLines after.length after with
        | ',' :: rest => (items? fuel depth rest).map fun (more, last) => (item :: more, last)
        | ']' :: rest => some ([item], rest)
        | _ => none

-- The pairs of a table in braces up to its end, put into the table one after another.
def pairs? (fuel depth : Nat) (table : Node) (cs : List Char) : Option (Node × List Char) :=
  match fuel with
  | 0 => none
  | fuel + 1 =>
    match key? cs with
    | some (path, '=' :: rest) =>
      match value? fuel depth (skipSpace rest) with
      | none => none
      | some (value, after) =>
        match table.assign path value, skipSpace after with
        | some next, ',' :: last => pairs? fuel depth next last
        | some next, '\x7d' :: last => some (next, last)
        | _, _ => none
    | _ => none
end

-- A document being read, and the header of the table that keys go into.
structure Page where
  document : Node
  header : List String

def Page.empty : Page := ⟨.table .header [], []⟩

-- A header in one or two brackets, after the first.
def header? (page : Page) (cs : List Char) : Option (Page × List Char) :=
  match cs with
  | '[' :: rest =>
    match key? rest with
    | some (path, ']' :: ']' :: after) =>
      match page.document.openItem path, lineEnd? after with
      | some document, some last => some (⟨document, path⟩, last)
      | _, _ => none
    | _ => none
  | _ =>
    match key? cs with
    | some (path, ']' :: after) =>
      match page.document.openTable path, lineEnd? after with
      | some document, some last => some (⟨document, path⟩, last)
      | _, _ => none
    | _ => none

def pair? (page : Page) (cs : List Char) : Option (Page × List Char) :=
  match key? cs with
  | some (path, '=' :: rest) =>
    match value? (cs.length + 1) 0 (skipSpace rest) with
    | none => none
    | some (value, after) =>
      match page.document.within false page.header (·.assign path value), lineEnd? after with
      | some document, some last => some (⟨document, page.header⟩, last)
      | _, _ => none
  | _ => none

-- Reads line after line. Every line has at least one character.
def lines? : Nat → Page → List Char → Option Node
  | fuel, page, cs =>
    match skipSpace cs, fuel with
    | [], _ => some page.document
    | _, 0 => none
    | body, fuel + 1 =>
      match body with
      | '#' :: _ => (lineEnd? body).bind (lines? fuel page)
      | '[' :: rest => (header? page rest).bind fun (next, after) => lines? fuel next after
      | c :: _ =>
        if c = '\n' || c = '\r' then (newline? body).bind (lines? fuel page)
        else (pair? page body).bind fun (next, after) => lines? fuel next after
      | [] => some page.document

-- The table that a text describes, after a byte order mark if there is one.
def parse? (text : String) : Option Node :=
  let cs := text.toList
  let body := match cs with
    | '\ufeff' :: rest => rest
    | _ => cs
  lines? (body.length + 1) .empty body

end Reconcile.Toml
