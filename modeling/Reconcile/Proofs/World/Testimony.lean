import Reconcile.Proofs.Batch.Testimony
import Reconcile.Proofs.World.Accounting

namespace Reconcile.BatchRun

variable {σ : Type} (transport : Transport σ) {r : BatchRun σ} {heard : Nat → List Asked}
  {told : List Verdict} {checked : List (List Job) → Prop}

theorem step_vouched (stands : r.batch.Stands heard) (accounted : r.batch.Accounted told checked)
    (vouched : r.batch.Vouched heard told) :
    ∃ news, (r.step transport).world.journal.entries = r.world.journal.entries ++ news ∧
      (r.step transport).batch.Vouched
        (fun position => hearAll position (heard position) (r.exchange transport))
        (told ++ verdicts news) := by
  have next :=
    vouched.step stands accounted (r.world.meet transport r.batch.context r.batch.demand).1
  obtain ⟨events, noted⟩ := World.entries_meet transport r.batch.context r.batch.demand r.world
  refine ⟨events.map .noted ++
    (r.batch.step (r.world.meet transport r.batch.context r.batch.demand).1).2, ?_, ?_⟩
  · rw [entries_step, noted, List.append_assoc]
  · rw [verdicts_append, verdicts_noted, List.nil_append]
    simp only [hear_exchange, batch_step]
    exact next

-- What the journal tells of a run says how far each of its operations has come.
theorem after_vouched (stands : r.batch.Stands heard) (accounted : r.batch.Accounted told checked)
    (vouched : r.batch.Vouched heard told) (n : Nat) :
    ∃ news, (r.after transport n).world.journal.entries = r.world.journal.entries ++ news ∧
      (r.after transport n).batch.Vouched
        (fun position => hearAll position (heard position) (r.exchanges transport n))
        (told ++ verdicts news) := by
  induction n generalizing r heard told checked with
  | zero =>
    refine ⟨[], (List.append_nil _).symm, ?_⟩
    rw [verdicts, List.filterMap_nil, List.append_nil]
    exact vouched
  | succ n ih =>
    obtain ⟨first, entries, once⟩ := step_accounted transport accounted
    obtain ⟨first', entries', once'⟩ := step_vouched transport stands accounted vouched
    cases List.append_cancel_left (entries.symm.trans entries')
    obtain ⟨rest, later, vouched'⟩ := ih (step_stands transport stands) once once'
    refine ⟨first ++ rest, ?_, ?_⟩
    · rw [after, later, entries, List.append_assoc]
    · simp only [exchanges, hearAll_append]
      rw [verdicts_append, ← List.append_assoc]
      exact vouched'

-- What becomes of the operations of a batch in a number of steps from its start, as the journal tells
-- it, and as the report does once the batch has come to its end.
theorem started_vouched (world : World σ) (context : Context) (transaction : Option TransactionId)
    (options : BatchOptions) (schedule : Schedule) (n : Nat) :
    let start : BatchRun σ := ⟨world, .start context transaction options schedule⟩
    let final := start.after transport n
    ∃ told, final.world.journal.entries = world.journal.entries ++ told ∧
      (∀ job ∈ Job.number schedule.ordered, ∃ phase,
        Standing context.policy transaction job.operation
          (hearAll job.position [] (start.exchanges transport n)) phase ∧
          ∀ result, phase = .finished result ↔ (job, result) ∈ verdicts told) ∧
      (final.batch.stage = .finished →
        final.batch.report.staged = transaction.isSome ∧ ∀ job,
          (job ∈ final.batch.report.applied ↔ (job, .ok ()) ∈ verdicts told) ∧
            ∀ failure, ⟨job, failure⟩ ∈ final.batch.report.failed ↔
              (job, .error failure) ∈ verdicts told) := by
  intro start final
  have stands : start.batch.Stands fun _ => [] :=
    Batch.start_stands context transaction options schedule
  have accounted : start.batch.Accounted [] fun _ => False :=
    Batch.start_accounted context transaction options schedule
  have vouched : start.batch.Vouched (fun _ => []) [] :=
    Batch.start_vouched context transaction options schedule
  obtain ⟨told, entries, account⟩ := after_accounted transport accounted n
  obtain ⟨told', entries', vouched'⟩ := after_vouched transport stands accounted vouched n
  cases List.append_cancel_left (entries.symm.trans entries')
  obtain ⟨context', transaction', -, operations'⟩ := settings_after transport start n
  refine ⟨told, entries, ?_, fun complete => ?_⟩
  · unfold Batch.Vouched at vouched'
    rw [context', transaction', operations'] at vouched'
    exact vouched'
  · obtain ⟨staged, k, results, accounts⟩ := account.of_finished complete
    rw [transaction'] at staged
    exact ⟨staged, fun job => ⟨accounts.mem_applied, fun failure => accounts.mem_failed⟩⟩

end Reconcile.BatchRun
