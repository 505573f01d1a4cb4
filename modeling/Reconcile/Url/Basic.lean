import Reconcile.Url.Host

namespace Reconcile

namespace Url

-- Whose rules a scheme follows. Those of the web have a host, treat a backslash as a slash and
-- never have an empty path.
inductive Family where
  | web | file | other
deriving DecidableEq, Repr

def familyOf (scheme : String) : Family :=
  if ["http", "https", "ws", "wss", "ftp"].contains scheme then .web
  else if scheme = "file" then .file
  else .other

def Family.isSpecial : Family → Bool
  | .other => false
  | _ => true

def defaultPort? : String → Option Nat
  | "http" | "ws" => some 80
  | "https" | "wss" => some 443
  | "ftp" => some 21
  | _ => none

structure Userinfo where
  name : List Char
  password : Option (List Char)
deriving DecidableEq, Repr

def Userinfo.text : Userinfo → List Char
  | ⟨name, none⟩ => name ++ ['@']
  | ⟨name, some password⟩ => name ++ ':' :: password ++ ['@']

structure Authority where
  userinfo : Option Userinfo := none
  host : Host
  port : Option Nat := none
deriving DecidableEq, Repr

def Authority.text (a : Authority) : String :=
  String.ofList ((a.userinfo.map (·.text)).getD []) ++ a.host.text ++
    ((a.port.map fun p => ":" ++ toString p).getD "")

-- A path of segments, each after a slash, already escaped; or a text that no segment can be added
-- to. `guarded` says that a dot was put before a path that would read as a host.
inductive Path where
  | rooted (segments : List (List Char)) (guarded : Bool)
  | rootless (text : List Char)
deriving DecidableEq, Repr

def segmentsText (segments : List (List Char)) : List Char := segments.flatMap ('/' :: ·)

end Url

structure Url where
  scheme : String
  authority : Option Url.Authority
  path : Url.Path
  query : Option (List Char) := none
  fragment : Option (List Char) := none
deriving DecidableEq, Repr

namespace Url

def family (u : Url) : Family := familyOf u.scheme

def Path.text : Path → List Char
  | .rooted segments _ => segmentsText segments
  | .rootless text => text

def Path.guard : Path → String
  | .rooted _ true => "/."
  | _ => ""

def pathText (u : Url) : String := String.ofList u.path.text

def queryText (u : Url) : Option String := u.query.map String.ofList

def text (u : Url) : String :=
  u.scheme ++ ":" ++ ((u.authority.map fun a => "//" ++ a.text).getD "") ++ u.path.guard ++
    u.pathText ++
    ((u.query.map fun q => "?" ++ String.ofList q).getD "") ++
    ((u.fragment.map fun f => "#" ++ String.ofList f).getD "")

end Url
end Reconcile
