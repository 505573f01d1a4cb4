import Reconcile.Batch.Group
import Reconcile.Schedule.Steps

namespace Reconcile

structure BatchOptions where
  continueOnError : Bool := false
  concurrentTiers : Bool := false
deriving DecidableEq, Repr

-- How far a batch has come.
inductive Stage where
  | fresh
  -- Before the first of the steps.
  | between (steps : List (List Job))
  -- In a step, with the steps after it.
  | running (group : Group) (steps : List (List Job))
  | finished
  | broken (fault : Fault)

-- A batch being carried out. Nothing is rolled back: outside a transaction a batch that stops
-- leaves part of its changes behind, and the report says so.
structure Batch where
  context : Context
  transaction : Option TransactionId
  options : BatchOptions
  operations : List Operation
  report : Report
  stage : Stage

namespace Batch

def start (context : Context) (transaction : Option TransactionId) (options : BatchOptions)
    (schedule : Schedule) : Batch :=
  ⟨context, transaction, options, schedule.ordered, .empty transaction.isSome, .fresh⟩

def steps (b : Batch) : List (List Job) :=
  Steps.plan b.options.concurrentTiers (Job.number b.operations)

def ended (b : Batch) : Bool :=
  match b.stage with
  | .finished | .broken _ => true
  | _ => false

def demand (b : Batch) : Demand :=
  match b.stage with
  | .running group _ => group.demand
  | _ => .nothing

-- The last words of a batch whose steps ahead are not carried out.
def close (b : Batch) (report : Report) (left : List (List Job)) (before : List Entry) :
    Batch × List Entry :=
  let last := report.skip left.flatten
  ({ b with report := last, stage := .finished }, before ++ [.batchEnded last])

-- Whether a batch stops after a step: it was interrupted, or something failed and failures count.
def stops (b : Batch) (report : Report) (results : List (Job × Except Failure Unit)) : Bool :=
  report.interrupted ||
    (!b.options.continueOnError && results.any fun r => match r.2 with
      | .error _ => true
      | .ok _ => false)

-- A step is over: its results go into the report, in the order of its operations.
def afterStep (b : Batch) (group : Group) (left : List (List Job)) : Batch × List Entry :=
  let report := group.results.foldl (fun r result => r.enter result.1 result.2) b.report
  if b.stops report group.results then b.close report left []
  else ({ b with report := report, stage := .between left }, [])

-- Before a step the context is looked at; in a step, its operations take their turns.
def step (sight : Sight) (b : Batch) : Batch × List Entry :=
  match b.stage with
  | .fresh =>
    ({ b with stage := .between b.steps }, [.batchStarted b.operations.length b.steps.length])
  | .between [] => b.close b.report [] []
  | .between (jobs :: left) =>
    match b.context.interruption? sight.moment with
    | some interruption =>
      b.close { b.report with interrupted := true } (jobs :: left)
        [.batchInterrupted interruption]
    | none => ({ b with stage := .running (.start jobs) left }, [])
  | .running group left =>
    if group.ended then b.afterStep group left
    else
      let (next, entries) := group.step b.context b.transaction sight
      match next.fault? with
      | some fault => ({ b with stage := .broken fault }, entries)
      | none => ({ b with stage := .running next left }, entries)
  | .finished | .broken _ => (b, [])

end Batch
end Reconcile
