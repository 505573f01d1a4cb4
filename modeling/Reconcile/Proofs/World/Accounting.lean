import Mathlib
import Reconcile.Proofs.Batch.Accounting
import Reconcile.Proofs.World.Acknowledgement

namespace Reconcile.BatchRun

variable {σ : Type} (transport : Transport σ)

-- The context stops the batch in one of a number of steps, between two of its own.
def Halted (r : BatchRun σ) (steps : Nat) (left : List (List Job)) : Prop :=
  ∃ m < steps, (r.after transport m).batch.Halts (r.after transport m).world.moment left

theorem halted_succ (r : BatchRun σ) (steps : Nat) (left : List (List Job)) :
    r.Halted transport (steps + 1) left ↔
      r.batch.Halts r.world.moment left ∨ (r.step transport).Halted transport steps left := by
  constructor
  · rintro ⟨m, before, halts⟩
    cases m with
    | zero => exact .inl halts
    | succ m => exact .inr ⟨m, Nat.lt_of_succ_lt_succ before, halts⟩
  · rintro (now | ⟨m, before, halts⟩)
    · exact ⟨0, Nat.succ_pos _, now⟩
    · exact ⟨m + 1, Nat.succ_lt_succ before, halts⟩

variable {r : BatchRun σ} {told : List Verdict} {checked : List (List Job) → Prop}

theorem verdicts_noted (events : List Event) : verdicts (events.map .noted) = [] := by
  rw [verdicts, List.filterMap_map, List.filterMap_eq_nil_iff]
  exact fun _ _ => rfl

theorem step_accounted (accounted : r.batch.Accounted told checked) :
    ∃ news, (r.step transport).world.journal.entries = r.world.journal.entries ++ news ∧
      (r.step transport).batch.Accounted (told ++ verdicts news)
        fun left => checked left ∨ r.batch.Halts r.world.moment left := by
  have next :=
    accounted.step (r.world.meet transport r.batch.context r.batch.demand).1
  rw [World.moment_meet] at next
  obtain ⟨events, noted⟩ :=
    World.entries_meet transport r.batch.context r.batch.demand r.world
  refine ⟨events.map .noted ++
    (r.batch.step (r.world.meet transport r.batch.context r.batch.demand).1).2, ?_, ?_⟩
  · rw [entries_step, noted, List.append_assoc]
  · rw [verdicts_append, verdicts_noted, List.nil_append]
    exact next

-- What the journal tells of a run is what its batch accounts for.
theorem after_accounted (accounted : r.batch.Accounted told checked) (n : Nat) :
    ∃ news, (r.after transport n).world.journal.entries = r.world.journal.entries ++ news ∧
      (r.after transport n).batch.Accounted (told ++ verdicts news)
        fun left => checked left ∨ r.Halted transport n left := by
  induction n generalizing r told checked with
  | zero =>
    refine ⟨[], (List.append_nil _).symm, ?_⟩
    have same : (fun left => checked left ∨ r.Halted transport 0 left) = checked :=
      funext fun left => propext (or_iff_left fun ⟨m, before, _⟩ => Nat.not_lt_zero m before)
    rw [same, verdicts, List.filterMap_nil, List.append_nil]
    exact accounted
  | succ n ih =>
    obtain ⟨first, entries, once⟩ := step_accounted transport accounted
    obtain ⟨rest, later, accounted'⟩ := ih once
    refine ⟨first ++ rest, ?_, ?_⟩
    · rw [after, later, entries, List.append_assoc]
    · simp only [halted_succ, ← or_assoc]
      rw [verdicts_append, ← List.append_assoc]
      exact accounted'

-- What the report of a batch that has come to its end accounts for: every operation once, and the
-- steps that were planned as the journal tells of them.
theorem started_accounts (world : World σ) (context : Context)
    (transaction : Option TransactionId) (options : BatchOptions) (schedule : Schedule) (n : Nat) :
    let start : BatchRun σ := ⟨world, .start context transaction options schedule⟩
    let final := start.after transport n
    let report := final.batch.report
    let jobs := Job.number schedule.ordered
    final.batch.stage = .finished →
      report.staged = transaction.isSome ∧ report.jobs.Perm jobs ∧
      (∀ job ∈ report.skipped, start.calls transport n job.position = []) ∧
      ∃ told k results, final.world.journal.entries = world.journal.entries ++ told ∧
        Accounts (Steps.plan options.concurrentTiers jobs) options report (verdicts told)
          (start.Halted transport n) k results := by
  intro start final report jobs complete
  have stands : start.batch.Stands fun _ => [] :=
    Batch.start_stands context transaction options schedule
  have accounted : start.batch.Accounted [] fun _ => False :=
    Batch.start_accounted context transaction options schedule
  obtain ⟨-, transaction', options', operations'⟩ := settings_after transport start n
  obtain ⟨tells, whole⟩ := (after_stands transport stands n).of_finished complete
  obtain ⟨told, entries, final'⟩ := after_accounted transport accounted n
  obtain ⟨staged, k, results, accounts⟩ := final'.of_finished complete
  have planned : final.batch.steps = Steps.plan options.concurrentTiers jobs := by
    rw [Batch.steps, options', operations']
    rfl
  have checked : (fun left => False ∨ start.Halted transport n left) = start.Halted transport n :=
    funext fun left => false_or _
  rw [planned, options', checked, List.nil_append] at accounts
  rw [transaction'] at staged
  rw [operations'] at whole
  refine ⟨staged, whole, fun job skipped => ?_, told, k, results, entries, accounts⟩
  exact congrArg List.reverse (tells.skipped job skipped)

-- The report of a batch that has come to its end, beside the steps that were planned and what the
-- journal tells of them.
theorem report_accounts (world : World σ) (context : Context)
    (transaction : Option TransactionId) (options : BatchOptions) (schedule : Schedule) (n : Nat) :
    let start : BatchRun σ := ⟨world, .start context transaction options schedule⟩
    let final := start.after transport n
    let report := final.batch.report
    let jobs := Job.number schedule.ordered
    final.batch.stage = .finished →
      ∃ told k results, final.world.journal.entries = world.journal.entries ++ told ∧
        Accounts (Steps.plan options.concurrentTiers jobs) options report (verdicts told)
          (start.Halted transport n) k results ∧
        (∀ job ∈ report.skipped, start.calls transport n job.position = []) ∧
        report.applied.length + report.failed.length + report.skipped.length =
          schedule.ordered.length ∧
        (report.isSuccess = true ↔ ∀ job ∈ jobs, job ∈ report.applied) ∧
        (report.partiallyApplied = true ↔ transaction = none ∧ report.applied ≠ [] ∧
          ∃ job ∈ jobs, job ∉ report.applied) := by
  intro start final report jobs complete
  obtain ⟨staged, every, silent, told, k, results, entries, accounts⟩ :=
    started_accounts transport world context transaction options schedule n complete
  have distinct : report.jobs.Nodup :=
    every.nodup_iff.mpr (Job.nodup_position_number schedule.ordered).of_map
  have length : report.jobs.length = schedule.ordered.length := calc
    report.jobs.length = jobs.length := every.length_eq
    _ = (jobs.map (·.operation)).length := (List.length_map _).symm
    _ = schedule.ordered.length := by rw [Job.map_operation_number]
  refine ⟨told, k, results, entries, accounts, silent, ?_, ?_, ?_⟩
  · rw [← length, Report.jobs, List.length_append, List.length_append, List.length_map,
      Nat.add_assoc]
  · rw [Report.isSuccess_iff distinct]
    exact forall_congr' fun job => imp_congr_left every.mem_iff
  · rw [Report.partiallyApplied_iff distinct, staged, Option.isSome_eq_false_iff,
      Option.isNone_iff_eq_none]
    refine and_congr_right fun _ => and_congr_right fun _ => exists_congr fun job => ?_
    exact and_congr_left fun _ => every.mem_iff

theorem rejectedSecond_accounts :
    (rejectedSecond.after rejectsSecond 11).batch.stage = .finished ∧
      (rejectedSecond.after rejectsSecond 11).batch.report.applied.map (·.position) = [0] ∧
      (rejectedSecond.after rejectsSecond 11).batch.report.failed.map (·.job.position) = [1] ∧
      (rejectedSecond.after rejectsSecond 11).batch.report.skipped.map (·.position) = [2] ∧
      ∃ told k results,
        (rejectedSecond.after rejectsSecond 11).world.journal.entries = [] ++ told ∧
        Accounts (Steps.plan false (Job.number (weighServers ["a", "b", "c"]).ordered)) {}
          (rejectedSecond.after rejectsSecond 11).batch.report (verdicts told)
          (rejectedSecond.Halted rejectsSecond 11) k results := by
  have complete : (rejectedSecond.after rejectsSecond 11).batch.stage = .finished := by cbv
  refine ⟨complete, by cbv, by cbv, by cbv, ?_⟩
  unfold rejectedSecond at complete ⊢
  obtain ⟨told, k, results, entries, accounts, -⟩ := report_accounts rejectsSecond
    ⟨0, false, (), fun _ => 0, 0, []⟩ {} none {} (weighServers ["a", "b", "c"]) 11 complete
  exact ⟨told, k, results, entries, accounts⟩

end Reconcile.BatchRun
