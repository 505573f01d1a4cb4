import Reconcile.Proofs.Batch.Overflow
import Reconcile.Proofs.World.BatchRun
import Reconcile.Proofs.World.GroupRun

namespace Reconcile

namespace BatchRun

variable {σ : Type} (transport : Transport σ) {heard : Nat → List Asked} {r : BatchRun σ}

theorem step_overflows (held : r.batch.Overflows heard) (stands : r.batch.Stands heard) :
    (r.step transport).batch.Overflows
      fun position => hearAll position (heard position) (r.exchange transport) := by
  simp only [hear_exchange, batch_step]
  exact held.step stands _

theorem after_overflows (held : r.batch.Overflows heard) (stands : r.batch.Stands heard)
    (n : Nat) : (r.after transport n).batch.Overflows
      fun position => hearAll position (heard position) (r.exchanges transport n) := by
  induction n generalizing r heard with
  | zero => exact held
  | succ n ih =>
    simp only [after, exchanges, hearAll_append]
    exact ih (step_overflows transport held stands) (step_stands transport stands)

theorem started_overflows (world : World σ) (context : Context)
    (transaction : Option TransactionId) (options : BatchOptions) (schedule : Schedule) (n : Nat) :
    let start : BatchRun σ := ⟨world, .start context transaction options schedule⟩
    (start.after transport n).batch.stage = .broken fault →
      ∃ job ∈ Job.number schedule.ordered, Overflow context.policy
        (submissions (start.calls transport n job.position)).length fault := by
  intro start broken
  have stands : start.batch.Stands fun _ => [] :=
    Batch.start_stands context transaction options schedule
  have held : start.batch.Overflows fun _ => [] :=
    Batch.start_overflows context transaction options schedule _
  obtain ⟨context', -, -, operations'⟩ := settings_after transport start n
  obtain ⟨job, mem, overflow⟩ := after_overflows transport held stands n fault broken
  rw [operations'] at mem
  rw [context'] at overflow
  refine ⟨job, mem, ?_⟩
  rwa [calls, submissions_reverse, List.length_reverse]

end BatchRun

namespace GroupRun

variable {σ : Type} {transport : Transport σ} {context : Context}
  {transaction : Option TransactionId} {r : GroupRun σ} {calls : Nat → List Asked}

theorem step_overflows (held : r.group.Overflows context.policy calls)
    (stands : r.group.Stands context.policy transaction calls) :
    (r.step transport context transaction).group.Overflows context.policy
      (fun position => hearAll position (calls position)
        (r.world.exchange transport context r.group.demand)) := by
  have next := held.step stands (r.world.meet transport context r.group.demand).1
  simp only [← hear_exchange transaction] at next
  exact next

theorem after_overflows (held : r.group.Overflows context.policy calls)
    (stands : r.group.Stands context.policy transaction calls) (n : Nat) :
    (r.after transport context transaction n).group.Overflows context.policy
      (fun position => hearAll position (calls position)
        (r.exchanges transport context transaction n)) := by
  induction n generalizing r calls with
  | zero => exact held
  | succ n ih =>
    simp only [after, exchanges, hearAll_append]
    exact ih (step_overflows held stands) (step_stands stands)

theorem started_overflows (transport : Transport σ) (context : Context) (world : World σ)
    {jobs : List Job} (distinct : (jobs.map (·.position)).Nodup) (n : Nat)
    (broken : ((⟨world, .start jobs⟩ : GroupRun σ).after transport context none n).group.fault? =
      some fault) : ∃ job ∈ jobs, Overflow context.policy
        (submissions ((⟨world, .start jobs⟩ : GroupRun σ).calls transport context none n
          job.position)).length fault := by
  obtain ⟨e, mem, ended⟩ := Group.broken_of_fault broken
  have one : e.job ∈ jobs := by
    have own := List.mem_map_of_mem (f := (·.job)) mem
    rwa [jobs_after, Group.jobs_start] at own
  have stands : (Group.start jobs).Stands context.policy none fun _ => [] :=
    Group.start_stands context.policy none distinct fun _ _ => rfl
  have overflow := after_overflows (r := ⟨world, .start jobs⟩)
    (Group.start_overflows context.policy _ jobs) stands n e mem fault ended
  refine ⟨e.job, one, ?_⟩
  rwa [calls, submissions_reverse, List.length_reverse]

-- Outside a transaction, whatever the other side does and whatever is drawn: doubling never shows
-- that it stops at the end of its word, no delay leaves its word if the policy has room for the
-- largest of them, and with that room nothing else can go wrong before a word of submissions.
theorem retries_within_words (transport : Transport σ) (context : Context) (world : World σ)
    (jobs : List Job) (distinct : (jobs.map (·.position)).Nodup) (n : Nat) :
    let policy := context.policy
    let run : GroupRun σ := ⟨world, .start jobs⟩
    let submitted (job : Job) :=
      (submissions (run.calls transport context none n job.position)).length
    let fault? := (run.after transport context none n).group.fault?
    (∀ attempt, Backoff.capped attempt policy.baseMs policy.maxMs =
      min (policy.baseMs.toNat * Nat.pow 2 (attempt - 1)) policy.maxMs.toNat) ∧
    (policy.Roomy ↔ ∀ attempt draw, ∃ delay, policy.delay attempt draw = .ok delay) ∧
    (∀ fault, fault? = some fault → ∃ job ∈ jobs, Overflow policy (submitted job) fault) ∧
    (policy.Roomy → (∀ job ∈ jobs, policy.Countable (submitted job)) → fault? = none) := by
  intro policy run submitted fault?
  have explained (fault : Fault) (broken : fault? = some fault) :
      ∃ job ∈ jobs, Overflow policy (submitted job) fault :=
    started_overflows transport context world distinct n broken
  refine ⟨fun attempt => Backoff.capped_eq attempt _ _, Policy.roomy_iff, explained, ?_⟩
  intro roomy countable
  refine Option.eq_none_iff_forall_ne_some.mpr fun fault broken => ?_
  obtain ⟨job, mem, overflow⟩ := explained fault broken
  exact Overflow.absent roomy (countable job mem) overflow

theorem weighedServer_within_words :
    let run := weighedServerRun.after staleOnce ⟨none, .standard⟩ none 6
    ([weighedServer].map (·.position)).Nodup ∧ Policy.standard.Roomy ∧
      (submissions (weighedServerRun.calls staleOnce ⟨none, .standard⟩ none 6 0)).length = 1 ∧
      run.group.fault? = none := by
  intro run
  have distinct : ([weighedServer].map (·.position)).Nodup := by decide
  have roomy : Policy.standard.Roomy := by decide
  have count : (submissions
      (weighedServerRun.calls staleOnce ⟨none, .standard⟩ none 6 0)).length = 1 := by decide +kernel
  obtain ⟨-, -, -, sound⟩ := retries_within_words staleOnce ⟨none, .standard⟩
    ⟨0, false, 3, fun _ => 0, 0, []⟩ [weighedServer] distinct 6
  refine ⟨distinct, roomy, count, sound roomy fun job mem => .inr ?_⟩
  cases List.mem_singleton.mp mem
  exact count.symm ▸ (by decide)

-- Every version is rejected.
def alwaysStale : Transport Unit where
  poll _ _ call _ _ :=
    match call with
    | .submit _ => ⟨.ready (.ok conflictStatus), (), false, []⟩
    | _ => ⟨.ready (.ok 7), (), false, []⟩
  between _ _ := ⟨(), false, none⟩

def rejectedRun (draw : UInt64) : GroupRun Unit :=
  ⟨⟨0, false, (), fun _ => draw, 0, []⟩, .start [weighedServer]⟩

-- The only operation is in some phase, at its turn, and nobody has cancelled.
structure At (phase : Phase) (r : GroupRun Unit) : Prop where
  group : r.group = ⟨[], [⟨weighedServer, phase⟩], []⟩
  free : r.world.cancelled = false

-- Nothing but the count of submissions changes from a reading to the next one.
theorem At.reads {r : GroupRun Unit} (reads : At (.reading mutation attempts 0) r)
    (room : attempts + 1 < Word.count32) :
    At (.submitting (mutation.request (.runtime 7)) (attempts + 1) 0)
      (r.step alwaysStale ⟨none, .immediate⟩ none) := by
  obtain ⟨⟨clock, cancelled, server, draws, drawn, journal⟩, group⟩ := r
  obtain ⟨rfl, rfl⟩ := reads
  constructor
  · rw [group_step]
    show (Group.step _ _ ⟨⟨clock, false⟩, .ready (.ok (.ok 7)), draws drawn⟩ _).1 = _
    simp [Group.step, Execution.turn, Execution.afterRead, Execution.attemptLimit, Execution.ended,
      room]
  · rfl

theorem At.rejected {r : GroupRun Unit}
    (submits : At (.submitting (mutation.request (.runtime 7)) attempts 0) r) :
    At (.reading mutation attempts 0) (r.step alwaysStale ⟨none, .immediate⟩ none) := by
  obtain ⟨⟨clock, cancelled, server, draws, drawn, journal⟩, group⟩ := r
  obtain ⟨rfl, rfl⟩ := submits
  constructor
  · rw [group_step]
    show (Group.step _ _ ⟨⟨clock, false⟩, .ready (.ok (.ok conflictStatus)), draws drawn⟩ _).1 = _
    have atOnce : Policy.immediate.delay attempts (draws drawn) = .ok 0 := if_pos (.inr rfl)
    have unbounded : Policy.immediate.exhausted attempts = false := rfl
    simp [Group.step, Execution.turn, Execution.afterSubmit, Execution.afterConflict,
      Execution.ended, isSuccess_conflictStatus, Request.mutation, Mutation.request, atOnce,
      unbounded]
  · rfl

theorem At.rereads (r : GroupRun Unit) (reads : At (.reading mutation 0 0) r) (rounds : Nat)
    (room : rounds < Word.count32) :
    At (.reading mutation rounds 0) (r.after alwaysStale ⟨none, .immediate⟩ none (2 * rounds)) := by
  induction rounds with
  | zero => exact reads
  | succ rounds ih =>
    rw [Nat.mul_succ, after_add]
    exact ((ih (Nat.lt_of_succ_lt room)).reads room).rejected

-- After a word of conflicts there is no count for another submission.
theorem At.overruns {r : GroupRun Unit} (reads : At (.reading mutation attempts 0) r)
    (full : Word.count32 ≤ attempts + 1) :
    (r.step alwaysStale ⟨none, .immediate⟩ none).group.fault? = some .attempts := by
  obtain ⟨⟨clock, cancelled, server, draws, drawn, journal⟩, group⟩ := r
  obtain ⟨rfl, rfl⟩ := reads
  rw [group_step]
  show (Group.step _ _ ⟨⟨clock, false⟩, .ready (.ok (.ok 7)), draws drawn⟩ _).1.fault? = _
  simp [Group.step, Group.fault?, Group.members, Execution.turn, Execution.afterRead,
    Execution.attemptLimit, Execution.ended, Nat.not_lt.mpr full]

-- The largest delay has no room for its random part, and retries at once and without end are not
-- without end.
theorem words_overflow :
    let largest : Policy := ⟨none, 18446744073709551615, 18446744073709551615⟩
    ((rejectedRun 1).after alwaysStale ⟨none, largest⟩ none 3).group.fault? = some .delay ∧
      ∃ n, ((rejectedRun 1).after alwaysStale ⟨none, .immediate⟩ none n).group.fault? =
        some .attempts := by
  refine ⟨by decide +kernel, 1 + 2 * (Word.count32 - 1) + 1, ?_⟩
  let mutation : Mutation :=
    ⟨.update, .server, .child ⟨.backend, "api"⟩ "web", some (.object [])⟩
  have first : At (.reading mutation 0 0)
      ((rejectedRun 1).after alwaysStale ⟨none, .immediate⟩ none 1) := ⟨rfl, rfl⟩
  rw [after_succ, after_add]
  exact (first.rereads _ (Word.count32 - 1) (by decide)).overruns (by decide)

end GroupRun
end Reconcile
