import Reconcile.Journal.Metrics

namespace Reconcile.Journal

def labelText (labels : List (String × String)) : String :=
  ",".intercalate (labels.map fun (name, value) => name ++ "=\"" ++ value ++ "\"")

-- One series of a metric and its count. Of durations only their number is told.
def seriesLine (metric : Metric) (count : Nat) : String :=
  let name := match metric with
    | .durations _ => metric.name ++ "_count"
    | _ => metric.name
  name ++ "\x7b" ++ labelText metric.labels ++ "\x7d " ++ toString count

-- The metrics in the text form in which they are asked for, one metric after another.
def exposition (journal : Journal) : String :=
  let counts := tally journal.metrics
  let part (name type : String) : List String :=
    match counts.filter (·.1.name = name) with
    | [] => []
    | series =>
      ["# TYPE " ++ name ++ " " ++ type] ++ series.map (fun (m, n) => seriesLine m n) ++ [""]
  let lines := part Metric.operationsName "counter" ++ part Metric.conflictsName "counter" ++
    part Metric.durationsName "summary"
  String.join (lines.map (· ++ "\n"))

end Reconcile.Journal
