import Reconcile.Payload.Field

namespace Reconcile.Payload

inductive ProxyMode where
  | http
  | tcp
deriving DecidableEq, Repr

def ProxyMode.text : ProxyMode → String
  | .http => "http"
  | .tcp => "tcp"

def ProxyMode.ofText? : String → Option ProxyMode
  | "http" => some .http
  | "tcp" => some .tcp
  | _ => none

inductive Balance where
  | roundrobin | static | leastconn | first | source | uri | random
deriving DecidableEq, Repr

def Balance.all : List Balance :=
  [.roundrobin, .static, .leastconn, .first, .source, .uri, .random]

def Balance.text : Balance → String
  | .roundrobin => "roundrobin"
  | .static => "static"
  | .leastconn => "leastconn"
  | .first => "first"
  | .source => "source"
  | .uri => "uri"
  | .random => "random"

def Balance.wire (b : Balance) : Json := .object [("algorithm", .string b.text)]

def Balance.ofText? (text : String) : Option Balance := all.find? (·.text == text)

def Balance.read? (v : Json) : Option Balance := do
  let o ← readFields ["algorithm"] v
  readRequired o "algorithm" (·.asWord? ofText?)

inductive Condition where
  | when
  | unless
deriving DecidableEq, Repr

def Condition.text : Condition → String
  | .when => "if"
  | .unless => "unless"

def Condition.ofText? : String → Option Condition
  | "if" => some .when
  | "unless" => some .unless
  | _ => none

-- The global section; the stop time is in milliseconds.
structure Global where
  maxconn : Option UInt64 := none
  nbthread : Option UInt32 := none
  hardStopAfter : Option UInt64 := none
  masterWorker : Option Bool := none
deriving DecidableEq, Repr

namespace Global

def wire (g : Global) : Wire :=
  if g.nbthread = some 0 then .error (.invalidField "nbthread" "must be at least 1")
  else .ok <| .ofList <|
    field "maxconn" (g.maxconn.map word64) ++ field "nbthread" (g.nbthread.map word32) ++
      field "hard_stop_after" (g.hardStopAfter.map word64) ++
      field "master_worker" (g.masterWorker.map .bool)

def fieldNames : List String := ["maxconn", "nbthread", "hard_stop_after", "master_worker"]

def read? (v : Json) : Option Global := do
  let o ← readFields fieldNames v
  let maxconn ← readOptional o "maxconn" readWord64?
  let nbthread ← readOptional o "nbthread" readWord32?
  let hardStopAfter ← readOptional o "hard_stop_after" readWord64?
  let masterWorker ← readOptional o "master_worker" (·.asBool?)
  return { maxconn, nbthread, hardStopAfter, masterWorker }

def payload (g : Global) : Payload := ⟨none, g.wire⟩

end Global

structure Frontend where
  name : String
  mode : Option ProxyMode := none
  defaultBackend : Option String := none
  maxconn : Option UInt64 := none
  httplog : Option Bool := none
deriving DecidableEq, Repr

namespace Frontend

def wire (f : Frontend) : Wire := do
  require "name" f.name
  return .ofList <|
    [("name", .string f.name)] ++ field "mode" (f.mode.map fun m => .string m.text) ++
      field "default_backend" (f.defaultBackend.map .string) ++
      field "maxconn" (f.maxconn.map word64) ++ field "httplog" (f.httplog.map .bool)

def fieldNames : List String := ["name", "mode", "default_backend", "maxconn", "httplog"]

def read? (v : Json) : Option Frontend := do
  let o ← readFields fieldNames v
  let name ← readRequired o "name" (·.asString?)
  let mode ← readOptional o "mode" (·.asWord? ProxyMode.ofText?)
  let defaultBackend ← readOptional o "default_backend" (·.asString?)
  let maxconn ← readOptional o "maxconn" readWord64?
  let httplog ← readOptional o "httplog" (·.asBool?)
  return { name, mode, defaultBackend, maxconn, httplog }

def payload (f : Frontend) : Payload := ⟨some f.name, f.wire⟩

end Frontend

-- The server timeout is in milliseconds.
structure Backend where
  name : String
  mode : Option ProxyMode := none
  balance : Option Balance := none
  serverTimeout : Option UInt64 := none
  useFcgiApp : Option String := none
deriving DecidableEq, Repr

namespace Backend

def wire (b : Backend) : Wire := do
  require "name" b.name
  return .ofList <|
    [("name", .string b.name)] ++ field "mode" (b.mode.map fun m => .string m.text) ++
      field "balance" (b.balance.map Balance.wire) ++
      field "server_timeout" (b.serverTimeout.map word64) ++
      field "use_fcgi_app" (b.useFcgiApp.map .string)

def fieldNames : List String := ["name", "mode", "balance", "server_timeout", "use_fcgi_app"]

def read? (v : Json) : Option Backend := do
  let o ← readFields fieldNames v
  let name ← readRequired o "name" (·.asString?)
  let mode ← readOptional o "mode" (·.asWord? ProxyMode.ofText?)
  let balance ← readOptional o "balance" Balance.read?
  let serverTimeout ← readOptional o "server_timeout" readWord64?
  let useFcgiApp ← readOptional o "use_fcgi_app" (·.asString?)
  return { name, mode, balance, serverTimeout, useFcgiApp }

def payload (b : Backend) : Payload := ⟨some b.name, b.wire⟩

end Backend

-- A listening address of a frontend. TLS that is absent is left as it is; false turns it off.
structure Bind where
  name : String
  address : Option String := none
  port : Option UInt32 := none
  ssl : Option Bool := none
  sslCertificate : Option String := none
  alpn : Option String := none
  acceptProxy : Option Bool := none
deriving DecidableEq, Repr

namespace Bind

def wire (b : Bind) : Wire := do
  require "name" b.name
  checkPort b.port
  if b.ssl = some false ∧ b.sslCertificate.isSome then
    throw (.invalidField "ssl_certificate" "set while ssl is disabled")
  return .ofList <|
    [("name", .string b.name)] ++ field "address" (b.address.map .string) ++
      field "port" (b.port.map word32) ++ field "ssl" (b.ssl.map .bool) ++
      field "ssl_certificate" (b.sslCertificate.map .string) ++
      field "alpn" (b.alpn.map .string) ++ field "accept_proxy" (b.acceptProxy.map .bool)

def fieldNames : List String :=
  ["name", "address", "port", "ssl", "ssl_certificate", "alpn", "accept_proxy"]

def read? (v : Json) : Option Bind := do
  let o ← readFields fieldNames v
  let name ← readRequired o "name" (·.asString?)
  let address ← readOptional o "address" (·.asString?)
  let port ← readOptional o "port" readWord32?
  let ssl ← readOptional o "ssl" (·.asBool?)
  let sslCertificate ← readOptional o "ssl_certificate" (·.asString?)
  let alpn ← readOptional o "alpn" (·.asString?)
  let acceptProxy ← readOptional o "accept_proxy" (·.asBool?)
  return { name, address, port, ssl, sslCertificate, alpn, acceptProxy }

def payload (b : Bind) : Payload := ⟨some b.name, b.wire⟩

end Bind

-- A server of a backend; its switches are written as words.
structure Server where
  name : String
  address : String
  port : Option UInt32 := none
  weight : Option UInt32 := none
  check : Option Bool := none
  ssl : Option Bool := none
  maintenance : Option Bool := none
  backup : Option Bool := none
deriving DecidableEq, Repr

namespace Server

def wire (s : Server) : Wire := do
  require "name" s.name
  require "address" s.address
  checkPort s.port
  if s.weight.any fun w => 256 < w.toNat then
    throw (.invalidField "weight" "must be at most 256")
  return .ofList <|
    [("name", .string s.name), ("address", .string s.address)] ++
      field "port" (s.port.map word32) ++ field "weight" (s.weight.map word32) ++
      field "check" (s.check.map toggle) ++ field "ssl" (s.ssl.map toggle) ++
      field "maintenance" (s.maintenance.map toggle) ++ field "backup" (s.backup.map toggle)

def payload (s : Server) : Payload := ⟨some s.name, s.wire⟩

end Server

-- An access control entry; one without a name is allowed.
structure Acl where
  name : Option String := none
  criterion : String
  value : Option String := none
deriving DecidableEq, Repr

namespace Acl

def wire (a : Acl) : Wire := do
  require "criterion" a.criterion
  return .ofList <|
    field "acl_name" (a.name.map .string) ++ [("criterion", .string a.criterion)] ++
      field "value" (a.value.map .string)

def fieldNames : List String := ["acl_name", "criterion", "value"]

def read? (v : Json) : Option Acl := do
  let o ← readFields fieldNames v
  let name ← readOptional o "acl_name" (·.asString?)
  let criterion ← readRequired o "criterion" (·.asString?)
  let value ← readOptional o "value" (·.asString?)
  return { name, criterion, value }

def payload (a : Acl) : Payload := ⟨a.name, a.wire⟩

end Acl

-- Any ordered rule. Its parameters are merged into the object after the fields of its own, so a
-- parameter with the key of a field takes that field's place.
structure Rule where
  type : String
  condition : Option Condition := none
  test : Option String := none
  params : Json.Object := []

namespace Rule

def wire (r : Rule) : Wire := do
  require "type" r.type
  match r.condition, r.test with
  | some _, none => throw (.invalidField "cond_test" "condition without a test")
  | none, some _ => throw (.invalidField "cond" "test without if/unless")
  | _, _ =>
    return .ofList <|
      [("type", .string r.type)] ++ field "cond" (r.condition.map fun c => .string c.text) ++
        field "cond_test" (r.test.map .string) ++ r.params

def payload (r : Rule) : Payload := ⟨some r.type, r.wire⟩

end Rule

-- A user of a userlist; the groups travel as one text, joined by commas.
structure User where
  username : String
  password : String
  securePassword : Option Bool := none
  groups : List String := []
deriving DecidableEq, Repr

namespace User

def badGroup (group : String) : Bool := group.toList.contains ',' || Text.isBlank group

def wire (u : User) : Wire := do
  require "username" u.username
  match u.groups.find? badGroup with
  | some group => throw (.invalidField "groups" s!"invalid group name '{group}'")
  | none =>
    return .ofList <|
      [("username", .string u.username), ("password", .string u.password)] ++
        field "secure_password" (u.securePassword.map .bool) ++
        field "groups"
          (if u.groups.isEmpty then none else some (.string (",".intercalate u.groups)))

def payload (u : User) : Payload := ⟨some u.username, u.wire⟩

end User

-- A body that is sent as it is.
structure Raw where
  fields : Json.Object

namespace Raw

-- Where a body says what it is called, the first text wins.
def labelKeys : List String := ["name", "acl_name", "username", "prefix", "type"]

-- The first of the keys whose value is a text; a blank text is no label and hides the later keys.
def label (r : Raw) : Option String :=
  (labelKeys.findSome? fun key => (r.fields.get? key).bind (·.asString?)).filter
    fun text => !Text.isBlank text

def payload (r : Raw) : Payload := ⟨r.label, .ok r.fields⟩

def ofJson? : Json → Except TransformError Raw
  | .object fields => .ok ⟨fields⟩
  | _ => .error .notAnObject

end Raw
end Reconcile.Payload
