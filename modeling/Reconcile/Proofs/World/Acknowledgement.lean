import Mathlib
import Reconcile.Proofs.World.BatchRun

namespace Reconcile.BatchRun

variable {σ : Type}

-- The report of a batch that has come to its end, beside the answers to all its calls.
theorem report_matches_answers (transport : Transport σ) (world : World σ) (context : Context)
    (transaction : Option TransactionId) (options : BatchOptions) (schedule : Schedule) (n : Nat) :
    let start : BatchRun σ := ⟨world, .start context transaction options schedule⟩
    let batch := (start.after transport n).batch
    let report := batch.report
    let calls (job : Job) := start.calls transport n job.position
    batch.stage = .finished →
      report.jobs.Perm (Job.number schedule.ordered) ∧ (report.jobs.map (·.position)).Nodup ∧
      ∀ job ∈ Job.number schedule.ordered,
        (job ∈ report.applied ↔ (calls job).countP Asked.acknowledged = 1) ∧
        (job ∈ report.applied → ∃ earlier request status,
          calls job = earlier ++ [⟨.submit request, some (.ok status)⟩] ∧
            isSuccess status = true) ∧
        (job ∈ report.failed.map (·.job) → (calls job).countP Asked.acknowledged = 0) ∧
        (job ∈ report.skipped → calls job = []) := by
  intro start batch report calls complete
  have started : start.batch.Stands fun _ => [] :=
    Batch.start_stands context transaction options schedule
  have operations : batch.operations = schedule.ordered := (settings_after transport start n).2.2.2
  obtain ⟨told, whole⟩ := (after_stands transport started n).of_finished complete
  rw [operations] at whole
  have count : ∀ job, (calls job).countP Asked.acknowledged =
      (hearAll job.position [] (start.exchanges transport n)).countP Asked.acknowledged :=
    fun job => List.countP_reverse
  have once : ∀ job ∈ report.applied, (calls job).countP Asked.acknowledged = 1 :=
    fun job applied => (count job).trans (told.applied job applied).countP
  have never : ∀ job ∈ report.failed.map (·.job), (calls job).countP Asked.acknowledged = 0 := by
    intro job failed
    obtain ⟨f, mem, rfl⟩ := List.mem_map.mp failed
    exact (count f.job).trans (told.failed f mem).countP
  have silent : ∀ job ∈ report.skipped, calls job = [] :=
    fun job skipped => congrArg List.reverse (told.skipped job skipped)
  refine ⟨whole, (whole.map _).nodup_iff.mpr (Job.nodup_position_number _), fun job mem => ?_⟩
  refine ⟨⟨once job, fun acknowledged => ?_⟩, fun applied => ?_, never job, silent job⟩
  · rcases Report.mem_jobs.mp (whole.symm.subset mem) with applied | failed | skipped
    · exact applied
    · rw [never job failed] at acknowledged
      cases acknowledged
    · rw [silent job skipped] at acknowledged
      cases acknowledged
  · obtain ⟨request, status, earlier, said, success, -⟩ := told.applied job applied
    refine ⟨earlier.reverse, request, status, ?_, success⟩
    rw [← List.reverse_cons]
    exact congrArg List.reverse said

def weighServers (names : List String) : Schedule :=
  .ofList (names.map fun name =>
    ⟨.update, .server, .child ⟨.backend, "api"⟩ name, some ⟨name, .ok []⟩⟩)

-- Everything but the second operation gets through.
def rejectsSecond : Transport Unit where
  poll _ job call _ _ :=
    match call with
    | .submit _ => ⟨.ready (.ok (if job.position = 1 then 404 else 200)), (), false, []⟩
    | _ => ⟨.ready (.ok 7), (), false, []⟩
  between _ _ := ⟨(), false, none⟩

def rejectedSecond : BatchRun Unit :=
  ⟨⟨0, false, (), fun _ => 0, 0, []⟩, .start {} none {} (weighServers ["a", "b", "c"])⟩

theorem rejectedSecond_matches_answers :
    (rejectedSecond.after rejectsSecond 11).batch.stage = .finished ∧
      (rejectedSecond.after rejectsSecond 11).batch.report.applied.map (·.position) = [0] ∧
      (rejectedSecond.after rejectsSecond 11).batch.report.failed.map (·.job.position) = [1] ∧
      (rejectedSecond.after rejectsSecond 11).batch.report.skipped.map (·.position) = [2] ∧
      (rejectedSecond.after rejectsSecond 11).batch.report.jobs.Perm
        (Job.number (weighServers ["a", "b", "c"]).ordered) := by
  have complete : (rejectedSecond.after rejectsSecond 11).batch.stage = .finished := by cbv
  refine ⟨complete, by cbv, by cbv, by cbv, ?_⟩
  unfold rejectedSecond at complete ⊢
  have matched := report_matches_answers rejectsSecond ⟨0, false, (), fun _ => 0, 0, []⟩ {} none {}
    (weighServers ["a", "b", "c"]) 11 complete
  exact matched.1

end Reconcile.BatchRun
