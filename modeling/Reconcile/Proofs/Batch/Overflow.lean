import Reconcile.Proofs.Batch.Stages
import Reconcile.Proofs.Submission.Overflow

namespace Reconcile

namespace Group

variable {context : Context} {transaction : Option TransactionId} {g : Group}

-- Where arithmetic has left its word, the calls made for the position justify it.
def Overflows (policy : Policy) (calls : Nat → List Asked) (g : Group) : Prop :=
  ∀ e ∈ g.members, ∀ fault, e.phase = .broken fault →
    Overflow policy (submissions (calls e.job.position)).length fault

theorem broken_of_fault (broken : g.fault? = some fault) :
    ∃ e ∈ g.members, e.phase = .broken fault := by
  obtain ⟨e, mem, ended⟩ := List.exists_of_findSome?_eq_some broken
  refine ⟨e, mem, ?_⟩
  split at ended
  · cases ended
    assumption
  · cases ended

theorem start_overflows (policy : Policy) (calls : Nat → List Asked) (jobs : List Job) :
    (start jobs).Overflows policy calls := by
  intro e mem fault broken
  exact absurd broken (sound_iff.mp (start_sound jobs) e mem fault)

theorem Overflows.step {calls : Nat → List Asked} (held : g.Overflows context.policy calls)
    (stands : g.Stands context.policy transaction calls) (sight : Sight) :
    (g.step context transaction sight).1.Overflows context.policy
      fun position => hearAll position (calls position) (g.step context transaction sight).2 := by
  cases next : g.ahead with
  | nil =>
    intro e mem
    rw [members_step_of_nil next] at mem
    rw [step_of_nil next]
    exact held e mem
  | cons e rest =>
    have own : ∀ entry ∈ (e.turn context transaction sight).entries, entry.job? = some e.job :=
      Execution.turn_entries_job context sight e
    intro after mem
    simp only [entries_step next]
    rcases (mem_members_step next).mp mem with rfl | other
    · have present := (mem_members_of_ahead next).mpr (.inl rfl)
      exact Execution.turn_overflows (stands.standing e present) (held e present)
    · rw [hearAll_other own (other_position stands.distinct next other)]
      exact held after ((mem_members_of_ahead next).mpr (.inr other))

end Group
namespace Batch

-- A batch that has broken off was brought to it by one of its operations.
def Overflows (b : Batch) (heard : Nat → List Asked) : Prop :=
  ∀ fault, b.stage = .broken fault → ∃ job ∈ Job.number b.operations,
    Overflow b.context.policy (submissions (heard job.position)).length fault

variable {b : Batch} {heard : Nat → List Asked}

theorem start_overflows (context : Context) (transaction : Option TransactionId)
    (options : BatchOptions) (schedule : Schedule) (heard : Nat → List Asked) :
    (start context transaction options schedule).Overflows heard := nofun

theorem Moves.overflows {after : Batch × List Entry} (moves : b.Moves sight after)
    (held : b.Overflows heard) (stands : b.Stands heard) :
    after.1.Overflows fun position => hearAll position (heard position) after.2 := by
  cases moves with
  | breaks stage going broken =>
    obtain ⟨-, standing, sound⟩ := stands.of_running stage
    -- Nobody had broken off before this step.
    have before : Group.Overflows b.context.policy heard _ := fun e mem fault broken =>
      absurd broken (Group.sound_iff.mp sound e mem fault)
    obtain ⟨e, mem, ended⟩ := Group.broken_of_fault broken
    have own := List.mem_map_of_mem (f := (·.job)) mem
    rw [Group.jobs_step, ← members_of_running stage] at own
    intro _ same
    cases same
    exact ⟨e.job, stands.listed own, before.step standing sight e mem _ ended⟩
  | rests ended => exact held
  | _ => nofun

theorem Overflows.step (held : b.Overflows heard) (stands : b.Stands heard) (sight : Sight) :
    (b.step sight).1.Overflows
      fun position => hearAll position (heard position) (b.step sight).2 :=
  (step_moves b sight).overflows held stands

end Batch
end Reconcile
