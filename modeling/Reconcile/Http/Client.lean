import Reconcile.Http.Exchange
import Reconcile.Json.Reader
import Reconcile.Word
import Reconcile.World.Basic

namespace Reconcile.Http

-- The other side of messages, as a transport is that of calls.
structure Sent (σ : Type) where
  progress : Progress Exchange
  server : σ
  cancels : Bool := false

structure Network (σ : Type) where
  poll : Moment → Job → Message → Nat → σ → Sent σ
  between : Moment → σ → Interval σ

def opened (e : Endpoint) : Event :=
  ⟨.debug, "Data Plane API client initialized", [("base_url", e.base.text)]⟩

def sending (r : Request) (url : Url) : Event :=
  ⟨.trace, "Data Plane API request",
    [("method", (Method.ofVerb r.verb).text), ("url", url.text),
      ("staged", truth r.mode.isStaged)]⟩

-- What an answer says, without a mark of the byte order.
def wordsOf (body : String) : String :=
  match body.toList with
  | '\uFEFF' :: rest => String.ofList rest
  | _ => body

-- The line about a refused submission is what the server says.
def refused (r : Request) (status : Nat) (body : String) : Event :=
  ⟨.debug, wordsOf body,
    [("status", toString status), ("section", r.kind.name), ("target", r.target.text)]⟩

def notAVersion : String := "invalid version body: error decoding response body"

-- The version that an answer states: a number that fits 64 bits, with space around it.
def versionOf (status : Nat) (body : String) : Reply :=
  if isSuccess status then
    match (Json.parse? body).bind (·.asNat?) with
    | some version =>
      if version < Word.count64 then .ok version
      else .error (.unexpectedResponse status notAVersion)
    | none => .error (.unexpectedResponse status notAVersion)
  else .error (.unexpectedResponse status (wordsOf body))

-- An exchange that is late before it begins, or that no network can carry, is not begun.
def doomed? (m : Message) : Option Exchange :=
  if !isSpoken m.url then some .unsendable
  else if m.timeoutSecs = 0 then some .late
  else none

def exchange {σ : Type} (network : Network σ) (now : Moment) (job : Job) (m : Message)
    (count : Nat) (server : σ) : Sent σ :=
  match doomed? m with
  | some e => ⟨.ready e, server, false⟩
  | none => network.poll now job m count server

def readVersion {σ : Type} (network : Network σ) (e : Endpoint) (now : Moment) (job : Job)
    (count : Nat) (server : σ) : Response σ :=
  let m := versionMessage e
  let sent := exchange network now job m count server
  let reply (x : Exchange) : Reply :=
    match x.result m.url with
    | .error error => .error error
    | .ok (status, body) => versionOf status body
  { progress := sent.progress.map reply, server := sent.server, cancels := sent.cancels }

def submit {σ : Type} (network : Network σ) (e : Endpoint) (now : Moment) (job : Job)
    (r : Request) (count : Nat) (server : σ) : Response σ :=
  match e.requestUrl r with
  | .error error => { progress := .ready (.error error), server := server }
  | .ok url =>
    let m := message e (.ofVerb r.verb) url r.body
    let before := if count = 0 then [sending r url] else []
    let sent := exchange network now job m count server
    match sent.progress with
    | .waiting wake => ⟨.waiting wake, sent.server, sent.cancels, before⟩
    | .ready x =>
      match x.result url with
      | .error error => ⟨.ready (.error error), sent.server, sent.cancels, before⟩
      | .ok (status, body) =>
        ⟨.ready (.ok status), sent.server, sent.cancels,
          if isSuccess status then before else before ++ [refused r status body]⟩

-- The message that carries a call, for those that need one and can have one.
def messageOf? (e : Endpoint) : Call → Option Message
  | .readVersion => some (versionMessage e)
  | .submit r => (e.requestUrl r).toOption.map fun url => message e (.ofVerb r.verb) url r.body
  | .pause _ => none

-- Calls carried as messages.
def transport {σ : Type} (network : Network σ) (e : Endpoint) : Transport σ where
  poll now job call count server :=
    match call with
    | .submit r => submit network e now job r count server
    | _ => readVersion network e now job count server
  between := network.between

end Reconcile.Http
