import Reconcile.Json.Writer
import Reconcile.Endpoint.Route
import Reconcile.Text.Base64

namespace Reconcile.Http

inductive Method where
  | get | post | put | delete
deriving DecidableEq, Repr

def Method.text : Method → String
  | .get => "GET"
  | .post => "POST"
  | .put => "PUT"
  | .delete => "DELETE"

def Method.ofVerb : Verb → Method
  | .create => .post
  | .update => .put
  | .delete => .delete

def userAgent : String := "dataplane-reconciler/0.1.0"

-- A message to the server, with the credentials of all who ask. Both times are in seconds: one for
-- the whole exchange, one for the connection.
structure Message where
  method : Method
  url : Url
  authorizations : List String
  body : Option String
  timeoutSecs : UInt64
  connectTimeoutSecs : UInt64

-- What comes back: an answer, or why there is none.
inductive Exchange where
  | answered (status : Nat) (body : String)
  | unsendable
  | notConnected
  | broken
  | late
deriving DecidableEq, Repr

-- The name and the password that a URL holds, where they stand for text.
def heldCredentials? (url : Url) : Option (String × Option String) := do
  let userinfo ← (← url.authority).userinfo
  let name ← Url.textOfBytes? (Url.unescape userinfo.name)
  let password := userinfo.password.bind fun cs => Url.textOfBytes? (Url.unescape cs)
  if name.isEmpty && password.isNone then none else return (name, password)

-- A message takes the name and the password that its URL holds out of it.
def shownUrl (url : Url) : Url :=
  match heldCredentials? url, url.authority with
  | some _, some a => { url with authority := some { a with userinfo := none } }
  | _, _ => url

def Exchange.result (exchange : Exchange) (url : Url) : Except TransportError (Nat × String) :=
  let place := s!" for url ({(shownUrl url).text})"
  match exchange with
  | .answered status body => .ok (status, body)
  | .unsendable => .error (.request ("builder error" ++ place))
  | .notConnected => .error (.connect ("error sending request" ++ place))
  | .broken => .error (.request ("error sending request" ++ place))
  | .late => .error .timeout

-- The name and the password in the form that HTTP sends them. A missing password is an empty one.
def credentials (name : String) (password : Option String) : String :=
  let plain := name ++ ":" ++ password.getD ""
  "Basic " ++ String.ofList (Text.base64 plain.toUTF8.data.toList)

def message (e : Endpoint) (method : Method) (url : Url) (body : Option Json) : Message :=
  let held := (heldCredentials? url).map fun (name, password) => credentials name password
  let own := e.username.map fun name => credentials name e.password
  ⟨method, url, held.toList ++ own.toList, body.map Json.write, e.requestTimeoutSecs, e.connectTimeoutSecs⟩

def urlLimit : Nat := 65534

def versionMessage (e : Endpoint) : Message := message e .get e.versionUrl none

-- Only the web is spoken to, at hosts that need no quotes and braces, and at URLs of bounded length.
def isSpoken (url : Url) : Bool :=
  let host := (url.authority.map (·.host.text)).getD ""
  (url.scheme = "http" || url.scheme = "https") &&
    !(host.toList.any "\"`\x7b\x7d".toList.contains) && (shownUrl url).text.utf8ByteSize ≤ urlLimit

end Reconcile.Http
