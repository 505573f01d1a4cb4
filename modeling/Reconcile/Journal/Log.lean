import Reconcile.Journal.Entry

namespace Reconcile

def truth (b : Bool) : String := if b then "true" else "false"

-- The line that a batch ends with.
def Report.event (r : Report) : Event :=
  let fields := [("summary", r.text)]
  if r.partiallyApplied then
    ⟨.warn, "Batch stopped early; live configuration is partially reconciled", fields⟩
  else if r.isSuccess then ⟨.info, "Batch complete", fields⟩
  else ⟨.error, "Batch failed", fields⟩

def Entry.event? : Entry → Option Event
  | .polled _ _ _ _ | .conflict _ _ => none
  | .retrying _ request version attempts =>
    some ⟨.warn, "Version conflict, re-reading version and resubmitting",
      [("section", request.kind.name), ("target", request.target.text),
        ("version", toString version), ("attempts", toString attempts)]⟩
  | .settled _ request attempts =>
    some ⟨.debug, "Applied after version conflicts",
      [("section", request.kind.name), ("target", request.target.text),
        ("attempts", toString attempts)]⟩
  | .finished job staged (.ok _) =>
    some ⟨.debug, "Operation applied",
      [("operation", job.operation.describe), ("staged", truth staged)]⟩
  | .finished job _ (.error failure) =>
    some ⟨.error, "Operation failed",
      [("operation", job.operation.describe), ("class", failure.category.text),
        ("error", failure.message)]⟩
  | .batchStarted operations steps =>
    some ⟨.info, "Applying batch",
      [("operations", toString operations), ("steps", toString steps)]⟩
  | .batchInterrupted interruption =>
    some ⟨.warn, "Batch interrupted before completion", [("error", interruption.message)]⟩
  | .batchEnded report => some report.event
  | .noted event => some event

-- The log of everything that has happened, oldest line first.
def Journal.log (journal : Journal) : List Event := journal.entries.filterMap (·.event?)

end Reconcile
