import Reconcile.Http.Text
import Std.Async.DNS
import Std.Async.TCP

namespace Reconcile.Console

open Std Async

def octets (n : Nat) : Net.IPv4Addr :=
  .ofParts (.ofNat (n / 16777216)) (.ofNat (n / 65536)) (.ofNat (n / 256)) (.ofNat n)

def pieces (ns : List Nat) : Net.IPv6Addr := ⟨Vector.ofFn fun i => .ofNat (ns.getD i 0)⟩

def place (address : Net.IPAddr) (port : Nat) : Net.SocketAddress :=
  match address with
  | .v4 a => .v4 ⟨a, .ofNat port⟩
  | .v6 a => .v6 ⟨a, .ofNat port⟩

-- Where the host of a URL can be reached.
def places (url : Url) : Async (List Net.SocketAddress) := do
  let some authority := url.authority | return []
  let port := (authority.port.or (Url.defaultPort? url.scheme)).getD 80
  match authority.host with
  | .v4 n => return [place (.v4 (octets n)) port]
  | .v6 ns => return [place (.v6 (pieces ns)) port]
  | .name name => return (← DNS.getAddrInfo name (toString port)).toList.map (place · port)

def connectTo? : List Net.SocketAddress → Async (Option TCP.Socket.Client)
  | [] => return none
  | address :: others => do
    try
      let client ← TCP.Socket.Client.mk
      client.connect address
      return some client
    catch _ => connectTo? others

partial def receive (client : TCP.Socket.Client) (arrived : ByteArray) : Async Http.Exchange := do
  match ← client.recv? 65536 with
  | none => return (Http.Exchange.ofBytes? arrived.toList true).getD .broken
  | some more =>
    let all := arrived ++ more
    match Http.Exchange.ofBytes? all.toList false with
    | some exchange => return exchange
    | none => receive client all

-- Sends a message over a connection of its own. Only the plain form of HTTP is spoken.
def exchange (m : Http.Message) (connected : IO.Ref Bool) : Async Http.Exchange := do
  if m.url.scheme != "http" then return .notConnected
  match ← connectTo? (← places m.url) with
  | none => return .notConnected
  | some client =>
    connected.set true
    try
      client.send m.text.toUTF8
      receive client .empty
    catch _ => return .broken

-- An exchange that has been begun for the call of an operation.
structure Flight where
  position : Nat
  message : Http.Message
  began : Nat
  connected : IO.Ref Bool
  task : AsyncTask Http.Exchange

def Flight.start (position : Nat) (message : Http.Message) : IO Flight := do
  let connected ← IO.mkRef false
  let task ← (exchange message connected).toIO
  return ⟨position, message, ← IO.monoMsNow, connected, task⟩

-- What has come back by now. Waiting has its limits.
def Flight.look (f : Flight) (now : Nat) : IO (Option Http.Exchange) := do
  let waited := now - f.began
  if (← f.task.getState) == .finished then
    try
      return some (← f.task.block)
    catch _ => return some .notConnected
  else if f.message.timeoutSecs.toNat * 1000 ≤ waited then return some .late
  else if !(← f.connected.get) && f.message.connectTimeoutSecs.toNat * 1000 ≤ waited then
    return some .late
  else return none

end Reconcile.Console
