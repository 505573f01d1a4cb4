import Reconcile.Submission.Execution

namespace Reconcile

-- What is needed before the next step can be made: nothing, a poll of a call, or that whatever all
-- operations wait for comes closer.
inductive Demand where
  | nothing
  | poll (job : Job) (call : Call) (count : Nat)
  | rest (wakes : List Wake)

-- Operations carried out at the same time. They take turns, in order: each goes on until it has to
-- wait or has ended, and once all had a turn, the next round begins.
structure Group where
  -- Those that have had their turn in this round, the last one first.
  seen : List Execution
  -- Those whose turn is still to come; the turn is that of the first.
  ahead : List Execution
  wakes : List Wake

namespace Group

def start (jobs : List Job) : Group := ⟨[], jobs.map Execution.start, []⟩

def members (g : Group) : List Execution := g.seen.reverse ++ g.ahead

def ended (g : Group) : Bool := g.ahead.isEmpty && g.seen.all (·.ended)

def fault? (g : Group) : Option Fault :=
  g.members.findSome? fun e => match e.phase with
    | .broken fault => some fault
    | _ => none

-- The results, in the order of the operations; those that have not ended are left out.
def results (g : Group) : List (Job × Except Failure Unit) :=
  g.members.filterMap fun e => match e.phase with
    | .finished result => some (e.job, result)
    | _ => none

def demand (g : Group) : Demand :=
  match g.ahead with
  | [] => if g.ended then .nothing else .rest g.wakes
  | e :: _ =>
    match e.call? with
    | some (call, count) => .poll e.job call count
    | none => .nothing

def nextRound (g : Group) : Group := ⟨[], g.members, []⟩

-- One step of the operation whose turn it is, or the end of the round.
def step (context : Context) (transaction : Option TransactionId) (sight : Sight) (g : Group) :
    Group × List Entry :=
  match g.ahead with
  | [] => (if g.ended then g else g.nextRound, [])
  | e :: rest =>
    let turn := e.turn context transaction sight
    let after : Execution := ⟨e.job, turn.phase⟩
    match turn.wake with
    | some wake => (⟨after :: g.seen, rest, wake :: g.wakes⟩, turn.entries)
    | none =>
      if after.ended then (⟨after :: g.seen, rest, g.wakes⟩, turn.entries)
      else (⟨g.seen, after :: rest, g.wakes⟩, turn.entries)

end Group
end Reconcile
