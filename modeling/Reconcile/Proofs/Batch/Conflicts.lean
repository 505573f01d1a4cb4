import Reconcile.Proofs.Batch.Accounting
import Reconcile.Proofs.Submission.Conflicts

namespace Reconcile

variable {heard : Nat → List Asked}

theorem Entry.conflictAt?_eq_none {entry : Entry} {job : Job} {position : Nat}
    (own : entry.job? = some job) (other : job.position ≠ position) :
    entry.conflictAt? position = none := by
  cases entry with
  | conflict noted kind =>
    cases own
    exact if_neg other
  | _ => rfl

theorem Group.Stands.notes {context : Context} {transaction : Option TransactionId} {g : Group}
    (stands : g.Stands context.policy transaction heard) (sight : Sight) (position : Nat) :
    Notes position (heard position) (g.step context transaction sight).2 := by
  cases next : g.ahead with
  | nil =>
    rw [step_of_nil next]
    exact (List.append_nil _).symm
  | cons e rest =>
    rw [entries_step next]
    have own : ∀ entry ∈ (e.turn context transaction sight).entries, entry.job? = some e.job :=
      Execution.turn_entries_job context sight e
    by_cases same : e.job.position = position
    · subst same
      exact Execution.turn_notes (stands.standing e ((mem_members_of_ahead next).mpr (.inl rfl)))
    · exact .of_quiet (hearAll_other own same _)
        fun entry mem => Entry.conflictAt?_eq_none (own entry mem) same

namespace Batch

variable {b : Batch}

theorem Moves.notes {sight : Sight} {after : Batch × List Entry} (moves : b.Moves sight after)
    (stands : b.Stands heard) (position : Nat) : Notes position (heard position) after.2 := by
  cases moves with
  | breaks stage => exact (stands.of_running stage).2.1.notes sight position
  | turns stage => exact (stands.of_running stage).2.1.notes sight position
  | starts | completes | stopped | enters | fails | leaves | rests =>
    refine .of_quiet rfl ?_
    simp [close, Entry.conflictAt?]

end Batch

-- A conflict that is noted for anybody.
def Entry.conflict? : Entry → Option Section
  | .conflict _ kind => some kind
  | _ => none

-- Conflicts are noted for operations, each of which is known by its position.
theorem conflicts_perm {jobs : List Job} (distinct : (jobs.map (·.position)).Nodup)
    {told : List Entry} (known : ∀ entry ∈ told, ∀ job, entry.job? = some job → job ∈ jobs) :
    (told.filterMap Entry.conflict?).Perm
      (jobs.flatMap fun job => told.filterMap (Entry.conflictAt? job.position)) := by
  induction told with
  | nil => simp
  | cons entry told ih =>
    obtain ⟨here, later⟩ := List.forall_mem_cons.mp known
    cases entry with
    | conflict job kind =>
      obtain ⟨front, back, rfl⟩ := List.append_of_mem (here job rfl)
      rw [List.map_append, List.map_cons, List.nodup_append] at distinct
      obtain ⟨-, behind, before⟩ := distinct
      have elsewhere : ∀ other ∈ front ++ back,
          (Entry.conflict job kind :: told).filterMap (Entry.conflictAt? other.position) =
            told.filterMap (Entry.conflictAt? other.position) := by
        intro other mem
        refine List.filterMap_cons_none (if_neg ?_)
        rcases List.mem_append.mp mem with first | last
        · exact (before _ (List.mem_map_of_mem first) _ (List.mem_cons_self ..)).symm
        · exact fun same => (List.nodup_cons.mp behind).1 (same ▸ List.mem_map_of_mem last)
      have own : (Entry.conflict job kind :: told).filterMap (Entry.conflictAt? job.position) =
          kind :: told.filterMap (Entry.conflictAt? job.position) :=
        List.filterMap_cons_some (if_pos rfl)
      have first := List.flatMap_congr fun other mem =>
        elsewhere other (List.mem_append_left _ mem)
      have last := List.flatMap_congr fun other mem =>
        elsewhere other (List.mem_append_right _ mem)
      rw [List.flatMap_append, List.flatMap_cons, first, last, own, List.cons_append]
      refine (List.Perm.cons kind (ih later)).trans ?_
      rw [List.flatMap_append, List.flatMap_cons]
      exact List.perm_middle.symm
    | _ => exact ih later

end Reconcile
