import Reconcile.Proofs.World.Interruption
import Reconcile.Proofs.World.Seclusion
import Reconcile.Proofs.World.Testimony

namespace Reconcile

variable {σ : Type} {context : Context} {heard : Nat → List Asked}

theorem World.meet_free (transport : Transport σ) {w : World σ} (onward : ¬w.Stopped context)
    (demand : Demand) : (w.meet transport context demand).1.Free := by
  intro i stopped
  cases demand with
  | nothing => cases stopped
  | rest wakes => cases stopped
  | poll job call count =>
    cases found : context.interruption? w.moment with
    | some interruption => exact onward (stopped_of_interruption found).1
    | none =>
      rw [progress_meet transport found] at stopped
      cases progress : (World.poll transport job call count w).1 <;> rw [progress] at stopped <;>
        cases stopped

namespace BatchRun

variable (transport : Transport σ) {r : BatchRun σ}

theorem after_own (stands : r.batch.Stands heard) (n : Nat)
    (onward : ¬(r.after transport n).Stopped) :
    ∃ news, (r.after transport n).world.journal.entries = r.world.journal.entries ++ news ∧
      ∀ v ∈ verdicts news, v.Own := by
  induction n generalizing r heard with
  | zero =>
    exact ⟨[], (List.append_nil _).symm, fun _ absent => (List.not_mem_nil absent).elim⟩
  | succ n ih =>
    have now : ¬r.Stopped := fun stopped => onward (stopped.after transport (n + 1))
    obtain ⟨events, noted⟩ := World.entries_meet transport r.batch.context r.batch.demand r.world
    obtain ⟨rest, entries, own⟩ := ih (step_stands transport stands) onward
    have moves := r.batch.step_moves (r.world.meet transport r.batch.context r.batch.demand).1
    refine ⟨_, by rw [after, entries, entries_step, noted, List.append_assoc, List.append_assoc], ?_⟩
    intro v mem
    rw [verdicts_append, verdicts_append, verdicts_noted, List.nil_append] at mem
    rcases List.mem_append.mp mem with told | later
    · exact moves.own stands (World.meet_free transport now r.batch.demand) v told
    · exact own v later

-- A run that nothing stops goes through all its steps.
theorem not_halted {n : Nat} (onward : ¬(r.after transport n).Stopped) (left : List (List Job)) :
    ¬r.Halted transport n left := by
  rintro ⟨m, before, -, -, interruption, found⟩
  obtain ⟨more, rfl⟩ := Nat.exists_eq_add_of_le (Nat.le_of_lt before)
  rw [after_add] at onward
  exact onward (Stopped.after transport (World.stopped_of_interruption found).1 more)

-- Where a batch is that goes on after failures, and that nothing has stopped: all of its operations
-- have come to an end of their own.
theorem finished_unstopped (world : World σ) (context : Context)
    (transaction : Option TransactionId) (concurrent : Bool) (schedule : Schedule) (n : Nat) :
    let start : BatchRun σ := ⟨world, .start context transaction ⟨true, concurrent⟩ schedule⟩
    let report := (start.after transport n).batch.report
    (start.after transport n).batch.stage = .finished → ¬(start.after transport n).Stopped →
      report.jobs.Perm (Job.number schedule.ordered) ∧ report.skipped = [] ∧
      report.interrupted = false ∧
      ∀ job ∈ Job.number schedule.ordered, ∃ result, (∀ i, result ≠ .error (.context i)) ∧
        Standing context.policy transaction job.operation
          (hearAll job.position [] (start.exchanges transport n)) (.finished result) ∧
        (job ∈ report.applied ↔ result = .ok ()) ∧
        ∀ failure, ⟨job, failure⟩ ∈ report.failed ↔ result = .error failure := by
  intro start report complete onward
  have started : start.batch.Stands fun _ => [] :=
    Batch.start_stands context transaction ⟨true, concurrent⟩ schedule
  obtain ⟨-, whole, -, told, k, results, entries, accounts⟩ :=
    started_accounts transport world context transaction ⟨true, concurrent⟩ schedule n complete
  obtain ⟨told', entries', own⟩ := after_own transport started n onward
  cases List.append_cancel_left (entries.symm.trans entries')
  obtain ⟨told', entries', vouched, -⟩ :=
    started_vouched transport world context transaction ⟨true, concurrent⟩ schedule n
  cases List.append_cancel_left (entries.symm.trans entries')
  obtain ⟨unskipped, uninterrupted⟩ := accounts.uncut rfl own (not_halted transport onward)
  refine ⟨whole, unskipped, uninterrupted, fun job mem => ?_⟩
  obtain ⟨phase, standing, tells⟩ := vouched job mem
  obtain ⟨result, ended⟩ : ∃ result, (job, result) ∈ verdicts told := by
    rcases Report.mem_jobs.mp (whole.symm.subset mem) with applied | failed | skipped
    · exact ⟨_, accounts.mem_applied.mp applied⟩
    · obtain ⟨f, entered, rfl⟩ := List.mem_map.mp failed
      exact ⟨_, accounts.mem_failed.mp entered⟩
    · rw [unskipped] at skipped
      cases skipped
  have phase_eq := (tells result).mpr ended
  subst phase_eq
  refine ⟨result, own _ ended, standing, ?_, fun failure => ?_⟩
  · rw [accounts.mem_applied, ← tells, Phase.finished.injEq]
  · rw [accounts.mem_failed, ← tells, Phase.finished.injEq]

theorem not_stopped {n : Nat} (endless : r.batch.context.deadline = none)
    (free : (r.after transport n).world.cancelled = false) : ¬(r.after transport n).Stopped := by
  unfold Stopped World.Stopped
  rw [(settings_after transport r n).1, endless, free]
  rintro (cancelled | ⟨deadline, bound, -⟩)
  · cases cancelled
  · cases bound

-- Operations that do not hear of each other do not care whether they are carried out at once or one
-- after another, nor how long it takes.
theorem concurrent_agrees (transport : Transport σ) (world world' : World σ)
    (same : world'.server = world.server) (secluded : transport.Secluded world.server)
    (policy : Policy) (transaction : Option TransactionId) (schedule : Schedule)
    (concurrent concurrent' : Bool) (n n' : Nat) :
    let context : Context := ⟨none, policy⟩
    let start : BatchRun σ := ⟨world, .start context transaction ⟨true, concurrent⟩ schedule⟩
    let start' : BatchRun σ := ⟨world', .start context transaction ⟨true, concurrent'⟩ schedule⟩
    let final := start.after transport n
    let final' := start'.after transport n'
    final.batch.stage = .finished → final.world.cancelled = false →
    final'.batch.stage = .finished → final'.world.cancelled = false →
      final.batch.report.applied.Perm final'.batch.report.applied ∧
      final.batch.report.failed.Perm final'.batch.report.failed ∧
      (final.batch.report.skipped = [] ∧ final'.batch.report.skipped = []) ∧
      (final.batch.report.interrupted = false ∧ final'.batch.report.interrupted = false) ∧
      ∀ job ∈ Job.number schedule.ordered,
        start.calls transport n job.position = start'.calls transport n' job.position := by
  intro context start start' final final' complete free complete' free'
  obtain ⟨answer, answers⟩ := secluded
  have silent : ∀ job ∈ Job.number schedule.ordered, Follows (answer job) [] := fun _ _ => trivial
  have served : transport.Served world.server (fun _ => []) world'.server := same ▸ .start
  have started : start.batch.Stands fun _ => [] := Batch.start_stands ..
  have started' : start'.batch.Stands fun _ => [] := Batch.start_stands ..
  have follows := after_follows answers started .start silent n
  have follows' := after_follows answers started' served silent n'
  obtain ⟨whole, unskipped, uninterrupted, ends⟩ := finished_unstopped transport world context
    transaction concurrent schedule n complete (not_stopped transport rfl free)
  obtain ⟨whole', unskipped', uninterrupted', ends'⟩ := finished_unstopped transport world' context
    transaction concurrent' schedule n' complete' (not_stopped transport rfl free')
  have agree : ∀ job ∈ Job.number schedule.ordered,
      hearAll job.position [] (start.exchanges transport n) =
        hearAll job.position [] (start'.exchanges transport n') ∧
      (job ∈ final.batch.report.applied ↔ job ∈ final'.batch.report.applied) ∧
      ∀ failure, ⟨job, failure⟩ ∈ final.batch.report.failed ↔
        ⟨job, failure⟩ ∈ final'.batch.report.failed := by
    intro job mem
    obtain ⟨result, own, standing, applied, failed⟩ := ends job mem
    obtain ⟨result', own', standing', applied', failed'⟩ := ends' job mem
    obtain ⟨calls, rfl⟩ :=
      standing.determined standing' own own' (follows job mem) (follows' job mem)
    refine ⟨calls, applied.trans applied'.symm, fun failure => ?_⟩
    exact (failed failure).trans (failed' failure).symm
  obtain ⟨applied, failed⟩ := Report.agree (Job.nodup_position_number _).of_map whole whole'
    (fun job mem => (agree job mem).2.1) (fun job mem => (agree job mem).2.2)
  refine ⟨applied, failed, ⟨unskipped, unskipped'⟩, ⟨uninterrupted, uninterrupted'⟩, ?_⟩
  exact fun job mem => congrArg List.reverse (agree job mem).1

def patientReply (job : Job) : Call → Reply
  | .submit _ =>
    .ok (if job.position = 0 then conflictStatus else if job.position = 1 then 404 else 200)
  | _ => .ok 7

-- Everybody has to be asked twice, and hears an answer of his own.
def patient : Transport Unit where
  poll _ job call count _ :=
    ⟨if count = 0 then .waiting .soon else .ready (patientReply job call), (), false, []⟩
  between _ _ := ⟨(), false, none⟩

theorem patient_secluded : patient.Secluded () := by
  refine ⟨fun job _ call => patientReply job call, ?_⟩
  rintro heard s - moment job call count calls reply - - - given
  unfold patient at given
  dsimp only at given
  split at given
  · cases given
  · cases given
    rfl

def promptWorld : World Unit := ⟨0, false, (), fun _ => 0, 0, []⟩

def lateWorld : World Unit := ⟨5, false, (), fun _ => 9, 0, []⟩

def atOnce : BatchRun Unit :=
  ⟨promptWorld, .start ⟨none, ⟨some 1, 25, 1000⟩⟩ none ⟨true, true⟩ (weighServers ["a", "b", "c"])⟩

def oneByOne : BatchRun Unit :=
  ⟨lateWorld, .start ⟨none, ⟨some 1, 25, 1000⟩⟩ none ⟨true, false⟩ (weighServers ["a", "b", "c"])⟩

theorem atOnce_agrees_oneByOne :
    (atOnce.batch.steps.map List.length = [3] ∧ oneByOne.batch.steps.map List.length = [1, 1, 1]) ∧
      (atOnce.after patient 36).batch.report.applied.map (·.position) = [2] ∧
      (atOnce.after patient 36).batch.report.failed.map (·.job.position) = [0, 1] ∧
      (oneByOne.after patient 38).batch.report.failed.map (·.job.position) = [0, 1] ∧
      (atOnce.after patient 36).batch.report.applied.Perm
        (oneByOne.after patient 38).batch.report.applied ∧
      (atOnce.after patient 36).batch.report.failed.Perm
        (oneByOne.after patient 38).batch.report.failed ∧
      ∀ job ∈ Job.number (weighServers ["a", "b", "c"]).ordered,
        atOnce.calls patient 36 job.position = oneByOne.calls patient 38 job.position := by
  have complete : (atOnce.after patient 36).batch.stage = .finished := by cbv
  have free : (atOnce.after patient 36).world.cancelled = false := by cbv
  have complete' : (oneByOne.after patient 38).batch.stage = .finished := by cbv
  have free' : (oneByOne.after patient 38).world.cancelled = false := by cbv
  refine ⟨⟨by cbv, by cbv⟩, by cbv, by cbv, by cbv, ?_⟩
  unfold atOnce at complete free ⊢
  unfold oneByOne at complete' free' ⊢
  obtain ⟨applied, failed, -, -, calls⟩ := concurrent_agrees patient promptWorld lateWorld rfl
    patient_secluded ⟨some 1, 25, 1000⟩ none (weighServers ["a", "b", "c"]) true false 36 38
    complete free complete' free'
  exact ⟨applied, failed, calls⟩

end BatchRun
end Reconcile
