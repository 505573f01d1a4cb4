import Reconcile.Settings.Basic
import Reconcile.Submission.Failure
import Reconcile.Text.Quoted
import Reconcile.Url.Reader

namespace Reconcile

-- Where requests go and in whose name. The path of the base URL takes segments.
structure Endpoint where
  base : Url
  segments : List (List Char)
  guarded : Bool
  username : Option String
  password : Option String
  requestTimeoutSecs : UInt64
  connectTimeoutSecs : UInt64
  rooted : base.path = .rooted segments guarded

namespace Endpoint

-- The endpoint that settings describe, if their URL is one that paths can be added to.
def ofConnection (c : Connection) : Except TransportError Endpoint :=
  match Url.parse c.baseUrl with
  | .error e => .error (.invalidEndpoint s!"'{c.baseUrl}': {e.message}")
  | .ok base =>
    match h : base.path with
    | .rootless _ => .error (.invalidEndpoint c.baseUrl)
    | .rooted segments guarded =>
      .ok ⟨base, segments, guarded, c.username, c.password, c.requestTimeoutSecs,
        c.connectTimeoutSecs, h⟩

-- How an endpoint is shown. The password is left out.
def text (e : Endpoint) : String :=
  let username := match e.username with
    | none => "None"
    | some name => "Some(" ++ Text.quoted name ++ ")"
  "DataplaneClient \x7b base_url: " ++ Text.quoted e.base.text ++ ", username: " ++ username ++
    " \x7d"

end Endpoint
end Reconcile
