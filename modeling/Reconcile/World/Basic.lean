import Reconcile.Batch.Basic
import Reconcile.Journal.Log

namespace Reconcile

-- What a poll of a call does to the other side, and what it brings. While it is polled, a call may
-- cancel the context.
structure Response (σ : Type) where
  progress : Progress Reply
  server : σ
  cancels : Bool := false
  events : List Event := []

-- What happens while everybody waits. An alarm is a time at which something happens again.
structure Interval (σ : Type) where
  server : σ
  cancels : Bool := false
  alarm : Option Nat := none

-- The other side of all calls, as seen from here. A call is known by its operation's position and by
-- how often it has been polled before, so that anything can be kept about it from poll to poll.
structure Transport (σ : Type) where
  poll : Moment → Job → Call → Nat → σ → Response σ
  between : Moment → σ → Interval σ

-- Everything around the operations. Time moves only while everybody waits.
structure World (σ : Type) where
  clock : Nat
  cancelled : Bool
  server : σ
  draws : Nat → UInt64
  drawn : Nat := 0
  journal : Journal := []

namespace World

variable {σ : Type}

def moment (w : World σ) : Moment := ⟨w.clock, w.cancelled⟩

def record (w : World σ) (moment : Moment) (entries : List Entry) : World σ :=
  { w with journal := w.journal.record moment entries }

-- The poll of a call that nothing interrupts. A pause needs no other side.
def poll (transport : Transport σ) (job : Job) (call : Call) (count : Nat) :
    StateM (World σ) (Progress Reply) := fun w =>
  match call with
  | .pause due => ((w.moment.pause due).map fun _ => .ok 0, w)
  | _ =>
    let response := transport.poll w.moment job call count w.server
    let after := { w with
      server := response.server
      cancelled := w.cancelled || response.cancels }
    (response.progress, after.record w.moment (response.events.map .noted))

-- The time of the next thing that can happen, if all that waits waits for a time.
def nextTime (wakes : List Wake) (others : List Nat) : Option Nat :=
  (wakes.filterMap (fun
    | .timer due => some due
    | _ => none) ++ others).min?

-- Everybody waits. The clock stays if somebody only gave way or a cancellation is to be noticed;
-- otherwise it moves on to the next time that somebody waits for.
def rest (transport : Transport σ) (context : Context) (wakes : List Wake) (w : World σ) :
    World σ :=
  let interval := transport.between w.moment w.server
  let cancelled := w.cancelled || interval.cancels
  let clock :=
    if wakes.contains .soon || cancelled then w.clock
    else match nextTime wakes (context.deadline.toList ++ interval.alarm.toList) with
      | some time => max w.clock time
      | none => w.clock
  { w with server := interval.server, cancelled := cancelled, clock := clock }

-- Meets a demand: the next step of the operations, and the world as it is then.
def meet (transport : Transport σ) (context : Context) (demand : Demand) (w : World σ) :
    Sight × World σ :=
  let draw := w.draws w.drawn
  let next := { w with drawn := w.drawn + 1 }
  match demand with
  | .nothing => (⟨w.moment, .waiting .soon, draw⟩, next)
  | .rest wakes => (⟨w.moment, .waiting .soon, draw⟩, rest transport context wakes next)
  | .poll job call count =>
    let (progress, after) := context.guard w.moment (poll transport job call count) next
    (⟨w.moment, progress, draw⟩, after)

-- A pause that nothing interrupts: how it ends, if it does within a number of polls.
def pause (transport : Transport σ) (context : Context) (due : Nat) (w : World σ) :
    Nat → Option (Except Interruption Unit × World σ)
  | 0 => none
  | polls + 1 =>
    match (context.guard w.moment (pure (w.moment.pause due)) : Id _) with
    | .ready result => some (result, w)
    | .waiting wake => pause transport context due (rest transport context [wake] w) polls

end World

-- A batch in its world.
structure BatchRun (σ : Type) where
  world : World σ
  batch : Batch

namespace BatchRun

variable {σ : Type}

def step (transport : Transport σ) (r : BatchRun σ) : BatchRun σ :=
  let (sight, world) := r.world.meet transport r.batch.context r.batch.demand
  let (batch, entries) := r.batch.step sight
  ⟨world.record sight.moment entries, batch⟩

-- The run after a number of steps.
def after (transport : Transport σ) (r : BatchRun σ) : Nat → BatchRun σ
  | 0 => r
  | n + 1 => after transport (r.step transport) n

-- The end of a run that ends within a number of steps.
def outcome? (transport : Transport σ) (steps : Nat) (r : BatchRun σ) : Option (BatchRun σ) :=
  if r.batch.ended then some r
  else match steps with
    | 0 => none
    | n + 1 => outcome? transport n (r.step transport)

end BatchRun

-- Operations that are carried out at the same time outside a batch.
structure GroupRun (σ : Type) where
  world : World σ
  group : Group

namespace GroupRun

variable {σ : Type}

def step (transport : Transport σ) (context : Context) (transaction : Option TransactionId)
    (r : GroupRun σ) : GroupRun σ :=
  let (sight, world) := r.world.meet transport context r.group.demand
  let (group, entries) := r.group.step context transaction sight
  ⟨world.record sight.moment entries, group⟩

def after (transport : Transport σ) (context : Context) (transaction : Option TransactionId)
    (r : GroupRun σ) : Nat → GroupRun σ
  | 0 => r
  | n + 1 => after transport context transaction (r.step transport context transaction) n

def ended (r : GroupRun σ) : Bool := r.group.ended || r.group.fault?.isSome

def outcome? (transport : Transport σ) (context : Context) (transaction : Option TransactionId)
    (steps : Nat) (r : GroupRun σ) : Option (GroupRun σ) :=
  if r.ended then some r
  else match steps with
    | 0 => none
    | n + 1 => outcome? transport context transaction n (r.step transport context transaction)

end GroupRun
end Reconcile
