import Reconcile.Proofs.Schedule.Order
import Reconcile.Proofs.World.Accounting

namespace Reconcile

namespace Report

variable {r : Report} {ops : List Operation}

-- Where every operation is counted once, nothing but success applies as many as there are.
theorem isSuccess_iff_perm (whole : (r.jobs.map (·.operation)).Perm ops) :
    r.isSuccess = true ↔ (r.applied.map (·.operation)).Perm ops := by
  rw [isSuccess, Bool.and_eq_true, List.isEmpty_iff, List.isEmpty_iff]
  constructor
  · rintro ⟨failed, skipped⟩
    simpa [jobs, failed, skipped] using whole
  · intro all
    have length := all.length_eq.trans whole.length_eq.symm
    simp only [jobs, List.length_map, List.length_append] at length
    exact ⟨List.eq_nil_of_length_eq_zero (by omega), List.eq_nil_of_length_eq_zero (by omega)⟩

theorem isSuccess_iff_acknowledged {heard : Nat → List Asked} (told : r.Tells heard) :
    r.isSuccess = true ↔ ∀ job ∈ r.jobs, ∃ a ∈ heard job.position, a.acknowledged = true := by
  rw [isSuccess, Bool.and_eq_true, List.isEmpty_iff, List.isEmpty_iff]
  constructor
  · rintro ⟨failed, skipped⟩ job mem
    have applied : job ∈ r.applied := by simpa [jobs, failed, skipped] using mem
    obtain ⟨request, status, earlier, said, success, -⟩ := told.applied job applied
    exact ⟨⟨.submit request, some (.ok status)⟩, said ▸ List.mem_cons_self .., success⟩
  · intro all
    constructor
    · rw [List.eq_nil_iff_forall_not_mem]
      intro f mem
      obtain ⟨a, asked, success⟩ :=
        all f.job (mem_jobs.mpr (.inr (.inl (List.mem_map_of_mem mem))))
      cases success.symm.trans (told.failed f mem a asked)
    · rw [List.eq_nil_iff_forall_not_mem]
      intro job mem
      obtain ⟨a, asked, -⟩ := all job (mem_jobs.mpr (.inr (.inr mem)))
      rw [told.skipped job mem] at asked
      cases asked

end Report

namespace BatchRun

variable {σ : Type} {transport : Transport σ} {r final : BatchRun σ}

-- What a run comes to is where it is at one of its steps, and there its batch has ended.
theorem after_of_outcome? (ends : r.outcome? transport steps = some final) :
    ∃ n ≤ steps, r.after transport n = final ∧ final.batch.ended = true := by
  induction steps generalizing r with
  | zero =>
    unfold outcome? at ends
    split at ends
    · cases ends
      exact ⟨0, Nat.le_refl 0, rfl, ‹_›⟩
    · cases ends
  | succ steps ih =>
    unfold outcome? at ends
    split at ends
    · cases ends
      exact ⟨0, Nat.zero_le _, rfl, ‹_›⟩
    · obtain ⟨n, within, same, ended⟩ := ih ends
      exact ⟨n + 1, Nat.succ_le_succ within, same, ended⟩

theorem outcome?_of_after (within : n ≤ steps)
    (ended : (r.after transport n).batch.ended = true) :
    ∃ final, r.outcome? transport steps = some final := by
  induction steps generalizing r n with
  | zero =>
    cases Nat.le_zero.mp within
    exact ⟨r, if_pos ended⟩
  | succ steps ih =>
    unfold outcome?
    split
    · exact ⟨r, rfl⟩
    · rename_i going
      cases n with
      | zero => exact absurd ended going
      | succ n => exact ih (Nat.le_of_succ_le_succ within) ended

end BatchRun
end Reconcile
