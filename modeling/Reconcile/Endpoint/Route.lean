import Reconcile.Endpoint.Basic

namespace Reconcile

-- Where the configuration lies below the base URL.
def configurationPath : List String := ["services", "haproxy", "configuration"]

-- The segments that lead to the target of a request. What is created is not named in its path,
-- unless it is addressed by its position.
def Request.route (r : Request) : List String :=
  let named (name : String) : List String := if r.verb = .create then [] else [name]
  match r.target with
  | .singleton => [r.kind.path]
  | .named name => r.kind.path :: named name
  | .child parent name => parent.kind.path :: parent.name :: r.kind.path :: named name
  | .indexed parent index => [parent.kind.path, parent.name, r.kind.path, toString index]
  | .contained _ name => r.kind.path :: named name

-- The pairs of the query: the container, if the target has one, and the mode.
def Request.pairs (r : Request) : Except TransportError (List (String × String)) :=
  let mode := match r.mode with
    | .staged id => ("transaction_id", id.text)
    | .runtime version => ("version", toString version)
  match r.target with
  | .contained container _ =>
    match r.kind.scope with
    | some key => .ok [(key, container.name), mode]
    | none => .error (.invalidEndpoint (r.kind.name ++ " has no container parameter"))
  | _ => .ok [mode]

namespace Endpoint

-- A URL below the configuration.
def url (e : Endpoint) (route : List String) : Url :=
  let family := e.base.family
  let segments := Url.extend family (Url.popEmpty e.segments) (configurationPath ++ route)
  { e.base with path := .rooted segments e.guarded }

def versionUrl (e : Endpoint) : Url := e.url ["version"]

def requestUrl (e : Endpoint) (r : Request) : Except TransportError Url :=
  match r.pairs with
  | .error error => .error error
  | .ok pairs => .ok (pairs.foldl (fun u pair => u.withPair pair.1 pair.2) (e.url r.route))

end Endpoint
end Reconcile
