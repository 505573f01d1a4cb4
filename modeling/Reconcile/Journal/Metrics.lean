import Reconcile.Journal.Entry

namespace Reconcile

-- A series of measurements. A result is counted under `ok` or the class of its failure, so that
-- the number of series stays bounded.
inductive Metric where
  | operations (kind : Section) (verb : Verb) (outcome : Option FailureClass)
  | conflicts (kind : Section)
  | durations (kind : Section)
deriving DecidableEq, Repr

namespace Metric

def operationsName : String := "reconciler_operations_total"

def conflictsName : String := "reconciler_version_conflicts_total"

def durationsName : String := "reconciler_operation_duration_seconds"

def outcomeText : Option FailureClass → String
  | none => "ok"
  | some category => category.text

def name : Metric → String
  | .operations _ _ _ => operationsName
  | .conflicts _ => conflictsName
  | .durations _ => durationsName

def labels : Metric → List (String × String)
  | .operations kind verb outcome =>
    [("section", kind.name), ("kind", verb.text), ("outcome", outcomeText outcome)]
  | .conflicts kind | .durations kind => [("section", kind.name)]

end Metric

def outcome : Except Failure Unit → Option FailureClass
  | .ok _ => none
  | .error failure => some failure.category

-- What an entry adds one to: a finished operation is counted and its duration is recorded.
def Entry.metrics : Entry → List Metric
  | .conflict _ kind => [.conflicts kind]
  | .finished job _ result =>
    [.operations job.operation.kind job.operation.verb (outcome result),
      .durations job.operation.kind]
  | _ => []

namespace Journal

-- Every measurement, in order.
def metrics (journal : Journal) : List Metric := journal.entries.flatMap (·.metrics)

def count (journal : Journal) (metric : Metric) : Nat := journal.metrics.count metric

end Journal

-- Counts of series, in the order of their first measurement.
def tally (metrics : List Metric) : List (Metric × Nat) :=
  metrics.foldl (fun counts m =>
    if counts.any (·.1 = m) then counts.map fun c => if c.1 = m then (m, c.2 + 1) else c
    else counts ++ [(m, 1)]) []

end Reconcile
