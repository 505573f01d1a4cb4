import Reconcile.Http.Exchange
import Reconcile.Text.Ascii
import Reconcile.Text.Split

namespace Reconcile.Http

def hostText (url : Url) : String :=
  match url.authority with
  | some a => ({ a with userinfo := none } : Url.Authority).text
  | none => ""

def Message.fields (m : Message) : List (String × String) :=
  [("host", hostText m.url), ("user-agent", userAgent), ("accept", "*/*"),
    ("connection", "close")] ++
    m.authorizations.map ("authorization", ·) ++
    match m.body with
    | none => []
    | some body =>
      [("content-type", "application/json"), ("content-length", toString body.utf8ByteSize)]

-- A message as it is sent. The connection is closed after one exchange.
def Message.text (m : Message) : String :=
  let target := m.url.pathText ++ ((m.url.queryText.map ("?" ++ ·)).getD "")
  let head := (m.method.text ++ " " ++ target ++ " HTTP/1.1") ::
    m.fields.map fun (name, value) => name ++ ": " ++ value
  String.join (head.map (· ++ "\r\n")) ++ "\r\n" ++ m.body.getD ""

-- A line without its end, and what follows it.
def line? (bytes : List UInt8) : Option (List Char × List UInt8) :=
  match bytes.dropWhile (· != 10) with
  | [] => none
  | _ :: rest =>
    let line := (bytes.takeWhile (· != 10)).map fun b => Char.ofNat b.toNat
    some ((line.reverse.dropWhile (· = '\r')).reverse, rest)

def trimmed (cs : List Char) : List Char :=
  ((cs.dropWhile (· = ' ')).reverse.dropWhile (· = ' ')).reverse

-- Fields up to an empty line, their names in lower case. Every line takes a byte at least.
def fields? : Nat → List UInt8 → Option (List (String × List Char) × List UInt8)
  | 0, _ => none
  | fuel + 1, bytes =>
    match line? bytes with
    | none => none
    | some ([], rest) => some ([], rest)
    | some (line, rest) =>
      let (name, value) := Text.cut (· = ':') line
      (fields? fuel rest).map fun (more, last) =>
        ((Text.lowerAscii (String.ofList name), trimmed (value.getD [])) :: more, last)

-- A body in chunks, each after its length in hexadecimal digits; one of length 0 is the end.
def chunks? : Nat → List UInt8 → Option (List UInt8)
  | 0, _ => none
  | fuel + 1, bytes =>
    match line? bytes with
    | none => none
    | some (line, rest) =>
      match Text.ofDigits? 16 (trimmed (Text.cut (· = ';') line).1) with
      | none => none
      | some 0 => some []
      | some length =>
        if rest.length < length then none
        else
          match line? (rest.drop length) with
          | none => none
          | some (_, after) => (chunks? fuel after).map (rest.take length ++ ·)

-- Whether bytes are the beginning of a character in UTF-8.
def isBegun (bytes : List UInt8) : Bool :=
  [1, 2].any fun more => (Url.textOfBytes? (bytes ++ List.replicate more 0x80)).isSome

-- The characters of a text in UTF-8. Each part that is no character, or only the beginning of one, is
-- replaced. Every character takes a byte at least.
def characters : Nat → List UInt8 → List Char
  | 0, _ | _, [] => []
  | fuel + 1, bytes =>
    match [1, 2, 3, 4].findSome? fun n => Url.textOfBytes? (bytes.take n) with
    | some text => text.toList ++ characters fuel (bytes.drop text.utf8ByteSize)
    | none =>
      let part := ([3, 2].find? fun n => n ≤ bytes.length && isBegun (bytes.take n)).getD 1
      '\uFFFD' :: characters fuel (bytes.drop part)

def utf8 (bytes : List UInt8) : String :=
  (Url.textOfBytes? bytes).getD (String.ofList (characters bytes.length bytes))

-- The bytes of a body: in chunks, of a stated length, or up to the end of the connection.
def body? (fields : List (String × List Char)) (closed : Bool) (bytes : List UInt8) :
    Option (List UInt8) :=
  match fields.lookup "transfer-encoding", fields.lookup "content-length" with
  | some _, _ => chunks? (bytes.length + 1) bytes
  | none, some digits =>
    (Text.ofDigits? 10 digits).bind fun length =>
      if bytes.length < length then none else some (bytes.take length)
  | none, none => if closed then some bytes else none

def statusOf? (line : List Char) : Option Nat :=
  match Text.split (· = ' ') line with
  | version :: status :: _ =>
    if version.take 5 = "HTTP/".toList ∧ status.length = 3 then
      (Text.ofDigits? 10 status).filter (100 ≤ ·)
    else none
  | _ => none

-- Answers that only say that another one will follow.
def isProvisional (status : Nat) : Bool := status < 200 && status != 101

-- What bytes that have arrived amount to. None while an answer may still be completed.
def Exchange.first? (closed : Bool) : Nat → List UInt8 → Option Exchange
  | 0, _ => none
  | fuel + 1, bytes =>
    let unfinished := if closed then some .broken else none
    match line? bytes with
    | none => unfinished
    | some (line, rest) =>
      match statusOf? line with
      | none => some .broken
      | some status =>
        match fields? (rest.length + 1) rest with
        | none => unfinished
        | some (fields, last) =>
          if isProvisional status then first? closed fuel last
          else if status = 101 ∨ status = 204 ∨ status = 304 then some (.answered status "")
          else
            match body? fields closed last with
            | some body => some (.answered status (utf8 body))
            | none => unfinished

def Exchange.ofBytes? (bytes : List UInt8) (closed : Bool) : Option Exchange :=
  Exchange.first? closed (bytes.length + 1) bytes

end Reconcile.Http
