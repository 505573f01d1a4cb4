import Reconcile.Console.Connection
import Reconcile.Console.Lookout
import Reconcile.Journal.Exposition
import Reconcile.Program.Basic
import Reconcile.Signals.Watcher

namespace Reconcile.Console

open Std Async

-- The number of an error, which may come with its sign turned.
def plainCode (code : UInt32) : UInt32 := if code < 2147483648 then code else 0 - code

-- The words of the system about a file.
def reason : IO.Error → String
  | .noFileOrDirectory _ code _ =>
    "No such file or directory (os error " ++ toString (plainCode code) ++ ")"
  | .permissionDenied _ code _ => "Permission denied (os error " ++ toString (plainCode code) ++ ")"
  | e => toString e

def readFile (path : String) : IO (Except String String) := do
  try
    return .ok (← IO.FS.readFile path)
  catch e => return .error (reason e)

def draw : IO UInt64 := do
  return (← IO.getRandomBytes 8).foldl (fun n byte => n * 256 + byte.toUInt64) 0

-- One exchange at a time: what has come back for the call that is polled, if anything has.
def network : Http.Network (Option Http.Exchange) where
  poll _ _ _ _ back :=
    match back with
    | some exchange => ⟨.ready exchange, none, false⟩
    | none => ⟨.waiting .soon, none, false⟩
  between _ back := { server := back }

def report (least : Level) (journal : Journal) (told : Nat) : IO Unit := do
  for entry in (journal.take (journal.length - told)).reverse do
    if let some event := entry.entry.event? then
      if least.shows event.level then IO.eprintln event.line

-- What a batch is carried out with besides the network.
structure Station where
  mission : Mission
  level : Level
  lookouts : List Lookout
  journal : IO.Ref Journal

-- Takes step after step, each at the time that it is by then.
partial def carryOut (s : Station) (watcher : Watcher) (flights : List Flight)
    (run : BatchRun (Option Http.Exchange)) : IO Ending := do
  if run.batch.ended then return Mission.ending run.batch
  let mut watcher := watcher
  for lookout in s.lookouts do
    if ← lookout.seen then watcher := watcher.step .signal
  if let some status := watcher.exit? then return ⟨status, [], none⟩
  let now ← IO.monoMsNow
  let moment : Moment := ⟨now, watcher.cancelled⟩
  let mut flights := flights
  let mut back : Option Http.Exchange := none
  match run.batch.demand with
  | .nothing => pure ()
  | .rest _ => IO.sleep 2
  | .poll job call count =>
    if count = 0 && (run.batch.context.interruption? moment).isNone then
      flights := flights.filter (·.position != job.position)
      if let some message := Http.messageOf? s.mission.endpoint call then
        flights := (← Flight.start job.position message) :: flights
    if let some flight := flights.find? (·.position = job.position) then
      back ← flight.look now
  let number ← draw
  let world := { run.world with
    clock := now, cancelled := watcher.cancelled, server := back, draws := fun _ => number }
  let transport := Http.transport network s.mission.endpoint
  let next := BatchRun.step transport { run with world }
  report s.level next.world.journal run.world.journal.length
  s.journal.set next.world.journal
  carryOut s watcher flights next

-- Answers everyone who asks for the metrics.
partial def serve (server : TCP.Socket.Server) (journal : IO.Ref Journal) : Async Unit := do
  let client ← server.accept
  try
    let _ ← client.recv? 65536
    let text := (← journal.get).exposition
    client.send (s!"HTTP/1.1 200 OK\r\ncontent-type: text/plain\r\nconnection: close\r\n" ++
      s!"content-length: {text.utf8ByteSize}\r\n\r\n{text}").toUTF8
    client.shutdown
  catch _ => pure ()
  serve server journal

-- Listens on an address, or says why not.
def listen (socket : Net.Socket) (journal : IO.Ref Journal) : IO (Option String) := do
  try
    let server ← TCP.Socket.Server.mk
    let address : Std.Net.IPAddr :=
      if socket.v6 then .v6 (pieces socket.host)
      else .v4 (octets (socket.host.foldl (fun n octet => n * 256 + octet) 0))
    server.bind (place address socket.port)
    server.listen 128
    let _ ← (serve server journal).toIO
    return none
  catch e => return some (toString e)

def carry (mission : Mission) : IO Ending := do
  let journal ← IO.mkRef []
  let complaint ← match mission.metrics? with
    | some socket => listen socket journal
    | none => pure none
  match complaint with
  | some reason => return .failed (.metrics reason)
  | none =>
    let now ← IO.monoMsNow
    match mission.batch now with
    | .error fault => return .failed (.fault fault)
    | .ok batch =>
      let lookouts ← [Signal.sigint, Signal.sigterm].mapM Lookout.start
      let world : World (Option Http.Exchange) :=
        { clock := now, cancelled := false, server := none, draws := fun _ => 0 }
      let world := world.record world.moment [.noted (Http.opened mission.endpoint)]
      let level := (Level.ofText? mission.settings.observability.logLevel).getD .info
      report level world.journal 0
      carryOut ⟨mission, level, lookouts, journal⟩ (.start false) [] ⟨world, batch⟩

def run (words : List String) : IO Ending := do
  match Arguments.ofWords words with
  | .error usage => return .ofUsage usage
  | .ok arguments =>
    let files : Files := ⟨← readFile arguments.config, ← readFile arguments.plan⟩
    match Program.prepare arguments files (← IO.getEnv Settings.passwordVariable) with
    | .error ending => return ending
    | .ok mission => carry mission

end Reconcile.Console

def main (words : List String) : IO UInt32 := do
  let ending ← Reconcile.Console.run words
  for line in ending.output do
    IO.println line
  if let some complaint := ending.complaint then
    IO.eprintln complaint
  return .ofNat ending.status
