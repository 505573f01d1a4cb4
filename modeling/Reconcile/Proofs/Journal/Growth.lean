import Reconcile.Proofs.Batch.Conflicts
import Reconcile.Proofs.Journal.Tally

namespace Reconcile

namespace Verdict

-- What the end of an operation adds to the metrics.
def counted (v : Verdict) : Metric :=
  .operations v.1.operation.kind v.1.operation.verb (outcome v.2)

def timed (v : Verdict) : Metric := .durations v.1.operation.kind

end Verdict

theorem countP_metrics (asked : Metric → Bool) (entries : List Entry) :
    (entries.flatMap Entry.metrics).countP asked =
      (verdicts entries).countP (asked ·.counted) + (verdicts entries).countP (asked ·.timed) +
        (entries.filterMap Entry.conflict?).countP (asked <| .conflicts ·) := by
  induction entries with
  | nil => rfl
  | cons entry entries ih =>
    rw [List.flatMap_cons, List.countP_append, ih]
    cases entry with
    | conflict job kind =>
      have noted : (Entry.conflict job kind :: entries).filterMap Entry.conflict? =
        kind :: entries.filterMap Entry.conflict? := rfl
      have untold : verdicts (Entry.conflict job kind :: entries) = verdicts entries := rfl
      rw [noted, untold, List.countP_cons, Entry.metrics, List.countP_singleton]
      omega
    | finished job staged result =>
      have told : verdicts (Entry.finished job staged result :: entries) =
        (job, result) :: verdicts entries := rfl
      have unnoted : (Entry.finished job staged result :: entries).filterMap Entry.conflict? =
        entries.filterMap Entry.conflict? := rfl
      have both : (Entry.finished job staged result).metrics =
        [Verdict.counted (job, result), Verdict.timed (job, result)] := rfl
      simp only [told, unnoted, both, List.countP_cons, List.countP_nil]
      omega
    | _ => exact Nat.zero_add _

namespace Journal

-- What is added to the metrics when operations end and calls are answered.
structure Grows (before after : Journal) (ended : List Verdict) (calls : List Asked) : Prop where
  operations : ∀ kind verb outcome,
    let labels := (Metric.operations kind verb outcome).labels
    after.total Metric.operationsName labels = before.total Metric.operationsName labels +
      ended.countP fun v => v.1.operation.kind = kind ∧ v.1.operation.verb = verb ∧
        Reconcile.outcome v.2 = outcome
  durations : ∀ kind,
    let labels := (Metric.durations kind).labels
    after.total Metric.durationsName labels = before.total Metric.durationsName labels +
      ended.countP fun v => v.1.operation.kind = kind
  conflicts : ∀ kind,
    let labels := (Metric.conflicts kind).labels
    after.total Metric.conflictsName labels = before.total Metric.conflictsName labels +
      calls.countP fun a => a.stale? = some kind
  every : after.total Metric.operationsName [] =
    before.total Metric.operationsName [] + ended.length
  applied : after.total Metric.operationsName [("outcome", "ok")] =
    before.total Metric.operationsName [("outcome", "ok")] + ended.countP fun v => v.2.isOk

variable {before after : Journal} {told : List Entry} {ended : List Verdict} {calls : List Asked}

theorem total_append (entries : after.entries = before.entries ++ told) (name : String)
    (labels : List (String × String)) : after.total name labels =
      before.total name labels +
        (told.flatMap Entry.metrics).countP (Metric.Fits name labels ·) := by
  rw [total_eq, total_eq, metrics, metrics, entries, List.flatMap_append, List.countP_append]

theorem total_operations (entries : after.entries = before.entries ++ told)
    (labels : List (String × String)) : after.total Metric.operationsName labels =
      before.total Metric.operationsName labels +
        (verdicts told).countP (Metric.Fits Metric.operationsName labels ·.counted) := by
  have untimed : (verdicts told).countP (Metric.Fits Metric.operationsName labels ·.timed) = 0 :=
    List.countP_eq_zero.mpr fun _ _ fits => Metric.names_apart.2.1 (of_decide_eq_true fits).1.symm
  have other : (told.filterMap Entry.conflict?).countP
      (Metric.Fits Metric.operationsName labels <| .conflicts ·) = 0 :=
    List.countP_eq_zero.mpr fun _ _ fits => Metric.names_apart.1 (of_decide_eq_true fits).1.symm
  rw [total_append entries, countP_metrics, untimed, other, Nat.add_zero]

theorem total_durations (entries : after.entries = before.entries ++ told)
    (labels : List (String × String)) : after.total Metric.durationsName labels =
      before.total Metric.durationsName labels +
        (verdicts told).countP (Metric.Fits Metric.durationsName labels ·.timed) := by
  have uncounted : (verdicts told).countP (Metric.Fits Metric.durationsName labels ·.counted) = 0 :=
    List.countP_eq_zero.mpr fun _ _ fits => Metric.names_apart.2.1 (of_decide_eq_true fits).1
  have other : (told.filterMap Entry.conflict?).countP
      (Metric.Fits Metric.durationsName labels <| .conflicts ·) = 0 :=
    List.countP_eq_zero.mpr fun _ _ fits => Metric.names_apart.2.2 (of_decide_eq_true fits).1
  rw [total_append entries, countP_metrics, uncounted, other, Nat.zero_add, Nat.add_zero]

theorem total_conflicts (entries : after.entries = before.entries ++ told)
    (labels : List (String × String)) : after.total Metric.conflictsName labels =
      before.total Metric.conflictsName labels + (told.filterMap Entry.conflict?).countP
        (Metric.Fits Metric.conflictsName labels <| .conflicts ·) := by
  have uncounted : (verdicts told).countP (Metric.Fits Metric.conflictsName labels ·.counted) = 0 :=
    List.countP_eq_zero.mpr fun _ _ fits => Metric.names_apart.1 (of_decide_eq_true fits).1
  have untimed : (verdicts told).countP (Metric.Fits Metric.conflictsName labels ·.timed) = 0 :=
    List.countP_eq_zero.mpr fun _ _ fits => Metric.names_apart.2.2 (of_decide_eq_true fits).1.symm
  rw [total_append entries, countP_metrics, uncounted, untimed, Nat.zero_add]

-- The labels of a result that is no failure.
theorem fits_ok {v : Verdict} :
    Metric.Fits Metric.operationsName [("outcome", "ok")] v.counted ↔ v.2.isOk = true := by
  obtain ⟨job, result⟩ := v
  cases result with
  | ok done => exact iff_of_true ⟨rfl, by simp [Verdict.counted, Metric.labels]; rfl⟩ rfl
  | error failure =>
    refine iff_of_false (fun fits => ?_) Bool.false_ne_true
    have listed : "ok" = Metric.outcomeText (some failure.category) := by
      simpa [Verdict.counted, Metric.labels, outcome] using fits.2 (List.mem_singleton_self _)
    have same : Metric.outcomeText none = Metric.outcomeText (some failure.category) := listed
    cases Metric.outcomeText_injective same

theorem grows (entries : after.entries = before.entries ++ told)
    (reported : (verdicts told).Perm ended)
    (noted : (told.filterMap Entry.conflict?).Perm (calls.filterMap Asked.stale?)) :
    before.Grows after ended calls := by
  constructor
  · intro kind verb outcome labels
    rw [total_operations entries, reported.countP_eq]
    refine congrArg _ (List.countP_congr fun v _ => ?_)
    rw [decide_eq_true_iff, decide_eq_true_iff]
    exact Metric.fits_iff (m := .operations kind verb outcome).trans (by simp [Verdict.counted])
  · intro kind labels
    rw [total_durations entries, reported.countP_eq]
    refine congrArg _ (List.countP_congr fun v _ => ?_)
    rw [decide_eq_true_iff, decide_eq_true_iff]
    exact Metric.fits_iff (m := .durations kind).trans (by simp [Verdict.timed])
  · intro kind labels
    rw [total_conflicts entries, noted.countP_eq, List.countP_filterMap]
    refine congrArg _ (List.countP_congr fun a _ => ?_)
    cases stale : a.stale? with
    | none => simp
    | some other =>
      rw [Option.map_some, Option.getD_some, decide_eq_true_iff, decide_eq_true_iff]
      exact Metric.fits_iff (m := .conflicts kind).trans (by simp)
  · rw [total_operations entries, reported.countP_eq]
    refine congrArg _ (List.countP_eq_length.mpr fun v _ => ?_)
    exact decide_eq_true ⟨rfl, List.nil_subset _⟩
  · rw [total_operations entries, reported.countP_eq]
    refine congrArg _ (List.countP_congr fun v _ => ?_)
    rw [decide_eq_true_iff]
    exact fits_ok

namespace Grows

theorem nil : before.Grows before [] [] :=
  ⟨fun _ _ _ => rfl, fun _ => rfl, fun _ => rfl, rfl, rfl⟩

theorem trans {last : Journal} {ended' : List Verdict} {calls' : List Asked}
    (first : before.Grows after ended calls) (rest : after.Grows last ended' calls') :
    before.Grows last (ended ++ ended') (calls ++ calls') := by
  constructor
  · intro kind verb outcome labels
    rw [rest.operations, first.operations, List.countP_append, Nat.add_assoc]
  · intro kind labels
    rw [rest.durations, first.durations, List.countP_append, Nat.add_assoc]
  · intro kind labels
    rw [rest.conflicts, first.conflicts, List.countP_append, Nat.add_assoc]
  · rw [rest.every, first.every, List.length_append, Nat.add_assoc]
  · rw [rest.applied, first.applied, List.countP_append, Nat.add_assoc]

end Grows
end Journal
end Reconcile
