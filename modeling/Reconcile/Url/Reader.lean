import Reconcile.Url.Path

namespace Reconcile.Url

-- The scheme of a URL in lower case, and what follows its colon.
def scheme? (cs : List Char) : Option (String × List Char) :=
  match cs with
  | [] => none
  | first :: _ =>
    if !Text.isLetter first then none
    else
      let isPart (c : Char) : Bool :=
        Text.isLetter c || Text.isDigit c || c = '+' || c = '-' || c = '.'
      match cs.dropWhile isPart with
      | ':' :: rest => some (Text.lowerAscii (String.ofList (cs.takeWhile isPart)), rest)
      | _ => none

def endsAuthority (family : Family) (c : Char) : Bool :=
  c = '/' || c = '?' || c = '#' || (family.isSpecial && c = '\\')

-- Divides at the last at sign.
def lastAt? (cs : List Char) : Option (List Char × List Char) :=
  match Text.cut (· = '@') cs.reverse with
  | (_, none) => none
  | (after, some before) => some (before.reverse, after.reverse)

-- Without a name and a password there is no userinfo. An empty password is none.
def userinfo? (cs : List Char) : Option Userinfo :=
  let (name, password) := Text.cut (· = ':') cs
  let escaped := (password.filter (!·.isEmpty)).map (escape inUserinfo)
  if name.isEmpty && escaped.isNone then none else some ⟨escape inUserinfo name, escaped⟩

-- The text before the first colon that is not in brackets, and what follows from that colon on.
def hostAndPort (inside : Bool) : List Char → List Char × List Char
  | [] => ([], [])
  | c :: rest =>
    if c = ':' && !inside then ([], c :: rest)
    else
      let (host, port) := hostAndPort (if c = '[' then true else if c = ']' then false else inside) rest
      (c :: host, port)

-- A port after its colon. The port of the scheme is left out.
def port? (scheme : String) (family : Family) (cs : List Char) :
    Except UrlError (Option Nat × List Char) :=
  let digits := cs.takeWhile Text.isDigit
  let rest := cs.drop digits.length
  let number := (Text.ofDigits? 10 digits).getD 0
  if 65535 < number then .error .invalidPort
  else
    match rest with
    | [] => finish digits number rest
    | c :: _ =>
      if endsAuthority family c || c = '\\' then finish digits number rest
      else .error .invalidPort
where
  finish (digits : List Char) (number : Nat) (rest : List Char) :
      Except UrlError (Option Nat × List Char) :=
    .ok (if digits.isEmpty ∨ defaultPort? scheme = some number then none else some number, rest)

-- The host and the port at the front of a text, and what follows.
def hostPart (scheme : String) (family : Family) (cs : List Char) :
    Except UrlError (Host × Option Nat × List Char) := do
  let front := cs.takeWhile (!endsAuthority family ·)
  let rest := cs.drop front.length
  let (text, port) := hostAndPort false front
  if text.isEmpty && family.isSpecial then throw .emptyHost
  let host ← if family.isSpecial then Host.ofSpecial text else Host.ofOther text
  match port with
  | [] => return (host, none, rest)
  | _ :: digits =>
    if text.isEmpty then throw .emptyHost
    let (number, after) ← port? scheme family (digits ++ rest)
    return (host, number, after)

-- What follows two slashes: userinfo, host and port.
def authorityOf (scheme : String) (family : Family) (cs : List Char) :
    Except UrlError (Authority × List Char) := do
  let front := cs.takeWhile (!endsAuthority family ·)
  let rest := cs.drop front.length
  match lastAt? front with
  | none =>
    let (host, port, after) ← hostPart scheme family cs
    return (⟨none, host, port⟩, after)
  | some (before, after) =>
    if before.isEmpty && after.isEmpty && !rest.isEmpty then throw .emptyHost
    let userinfo := userinfo? before
    let (host, port, last) ← hostPart scheme family (after ++ rest)
    if host = .name "" && userinfo.isSome then throw .emptyHost
    return (⟨userinfo, host, port⟩, last)

-- Takes the query and the fragment off the end.
def ending (cs : List Char) : List Char × Option (List Char) × Option (List Char) :=
  let (front, fragment) := Text.cut (· = '#') cs
  let (path, query) := Text.cut (· = '?') front
  (path, query, fragment)

-- The segments of the path after an authority.
def pathAfter (family : Family) (cs : List Char) : List (List Char) :=
  match cs with
  | [] => if family.isSpecial then segmentsOf family [] else []
  | c :: rest =>
    if c = '/' || (family.isSpecial && c = '\\') then segmentsOf family rest
    else segmentsOf family cs

-- A path that would read as an authority is guarded.
def guarded (segments : List (List Char)) : Bool :=
  match segments with
  | [] :: _ :: _ => true
  | _ => false

def assemble (scheme : String) (family : Family) (authority : Option Authority) (path : Path)
    (query fragment : Option (List Char)) : Url :=
  ⟨scheme, authority, path,
    query.map (escape (if family.isSpecial then inSpecialQuery else inQuery)),
    fragment.map (escape inFragment)⟩

def isSlash (c : Char) : Bool := c = '/' || c = '\\'

-- What follows the scheme of a file: its host and its path. A drive is part of the path, also where
-- the host would stand, and the local machine has no name. After no name, the slash that ends it is
-- read as a piece of the path.
def fileParts (cs : List Char) : Except UrlError (Host × List (List Char)) :=
  match cs.dropWhile isIgnored with
  | [] => .ok (.name "", segmentsOf .file [])
  | a :: more =>
    if !isSlash a then .ok (.name "", segmentsOf .file (a :: more))
    else
      match more.dropWhile isIgnored with
      | [] => .ok (.name "", segmentsOf .file [])
      | b :: rest =>
        if !isSlash b then .ok (.name "", segmentsOf .file (b :: rest))
        else named rest
where
  named (cs : List Char) : Except UrlError (Host × List (List Char)) := do
    let front := cs.takeWhile (!isSlash ·)
    let rest := cs.drop front.length
    let name := kept front
    if isDrive name then return (.name "", segmentsOf .file cs)
    else if name.isEmpty then return (.name "", segmentsOf .file rest)
    else
      let host ← Host.ofSpecial name
      if host = .name "localhost" then return (.name "", segmentsOf .file rest)
      else
        let path := pathOf .file (rest.drop 1)
        return (if path.drive then .name "" else host, path.segments)

def fileUrl (scheme : String) (cs : List Char) : Except UrlError Url := do
  let (path, query, fragment) := ending cs
  let (host, segments) ← fileParts path
  return assemble scheme .file (some ⟨none, host, none⟩) (.rooted segments false) (query.map kept)
    (fragment.map kept)

-- What follows any other scheme. A web URL has its host after any number of slashes.
def afterScheme (scheme : String) (cs : List Char) : Except UrlError Url := do
  let family := familyOf scheme
  match family with
  | .web =>
    let (found, rest) ← authorityOf scheme family (cs.dropWhile isSlash)
    let (path, query, fragment) := ending rest
    return assemble scheme family (some found) (.rooted (pathAfter family path) false) query fragment
  | _ =>
    match cs with
    | '/' :: '/' :: more =>
      let (found, rest) ← authorityOf scheme family more
      let (path, query, fragment) := ending rest
      return assemble scheme family (some found) (.rooted (pathAfter family path) false) query
        fragment
    | _ =>
      let (path, query, fragment) := ending cs
      match path with
      | '/' :: more =>
        let segments := segmentsOf family more
        return assemble scheme family none (.rooted segments (guarded segments)) query fragment
      | _ =>
        return assemble scheme family none (.rootless (escape isControl path)) query fragment

-- Control characters and spaces around a URL are no part of it.
def isTrimmed (c : Char) : Bool := c.toNat ≤ 0x20

def trim (cs : List Char) : List Char :=
  ((cs.dropWhile isTrimmed).reverse.dropWhile isTrimmed).reverse

def parse (text : String) : Except UrlError Url :=
  let cs := trim text.toList
  match scheme? (kept cs) with
  | none => .error .relativeWithoutBase
  | some (scheme, rest) =>
    if familyOf scheme = .file then fileUrl scheme (((Text.cut (· = ':') cs).2).getD [])
    else afterScheme scheme rest

end Reconcile.Url
