import Reconcile.Proofs.Batch.Stages

namespace Reconcile

namespace Batch

variable {σ : Type} {b : Batch} {group : Group} {left : List (List Job)}

theorem demand_of_running (stage : b.stage = .running group left) : b.demand = group.demand := by
  rw [demand, stage]

theorem running_of_demand (asks : b.demand = .poll job call count) :
    ∃ group left, b.stage = .running group left ∧ group.demand = .poll job call count := by
  unfold demand at asks
  split at asks
  · exact ⟨_, _, ‹_›, asks⟩
  · cases asks

theorem Stands.justified {heard : Nat → List Asked} (stands : b.Stands heard) :
    b.demand.Justified b.context.policy b.transaction heard := by
  intro job call count asks
  obtain ⟨group, left, stage, asks⟩ := running_of_demand asks
  exact (stands.of_running stage).2.1.justified job call count asks

theorem Stands.listed_of_demand {heard : Nat → List Asked} (stands : b.Stands heard)
    (asks : b.demand = .poll job call count) : job ∈ Job.number b.operations := by
  obtain ⟨group, left, stage, asks⟩ := running_of_demand asks
  obtain ⟨e, rest, next, rfl, -⟩ := Group.ahead_of_demand asks
  apply stands.listed
  rw [members_of_running stage]
  exact List.mem_map_of_mem ((Group.mem_members_of_ahead next).mpr (.inl rfl))

theorem exchange_of_idle (idle : ∀ group left, b.stage ≠ .running group left)
    (transport : Transport σ) (context : Context) (w : World σ) :
    w.exchange transport context b.demand = [] := by
  have nothing : b.demand = .nothing := by
    unfold demand
    split
    · exact absurd ‹_› (idle _ _)
    · rfl
  rw [nothing]
  rfl

theorem exchange_of_over (stage : b.stage = .running group left) (complete : group.ended = true)
    (transport : Transport σ) (context : Context) (w : World σ) :
    w.exchange transport context b.demand = [] := by
  have none := complete
  rw [Group.ended, Bool.and_eq_true, List.isEmpty_iff] at none
  rw [demand_of_running stage, Group.demand, none.1]
  simp only [complete, if_true]
  rfl

-- What is told of the calls of a step is what has passed between the two sides.
theorem Moves.polls {transport : Transport σ} {w : World σ} {after : Batch × List Entry}
    (moves : b.Moves (w.meet transport b.context b.demand).1 after) :
    after.2.filter Entry.isPoll = w.exchange transport b.context b.demand := by
  cases moves with
  | starts stage => exact (exchange_of_idle (by simp [stage]) ..).symm
  | completes stage => exact (exchange_of_idle (by simp [stage]) ..).symm
  | stopped stage interrupted => exact (exchange_of_idle (by simp [stage]) ..).symm
  | enters stage free => exact (exchange_of_idle (by simp [stage]) ..).symm
  | fails stage complete => exact (exchange_of_over stage complete ..).symm
  | leaves stage complete => exact (exchange_of_over stage complete ..).symm
  | breaks stage going broken =>
    rw [demand_of_running stage]
    exact Group.polls_step transport b.context b.transaction _ w
  | turns stage going sound =>
    rw [demand_of_running stage]
    exact Group.polls_step transport b.context b.transaction _ w
  | rests ended =>
    refine (exchange_of_idle ?_ ..).symm
    intro group left stage
    simp [Batch.ended, stage] at ended

end Batch

namespace BatchRun

variable {σ : Type} (transport : Transport σ) {heard : Nat → List Asked} (r : BatchRun σ)

theorem batch_step : (r.step transport).batch =
    (r.batch.step (r.world.meet transport r.batch.context r.batch.demand).1).1 := rfl

theorem entries_step : (r.step transport).world.journal.entries =
    (r.world.meet transport r.batch.context r.batch.demand).2.journal.entries ++
      (r.batch.step (r.world.meet transport r.batch.context r.batch.demand).1).2 :=
  Journal.entries_record ..

-- The journal tells what has passed between the two sides, and all of it.
theorem polls_journal (n : Nat) :
    (r.after transport n).world.journal.entries.filter Entry.isPoll =
      r.world.journal.entries.filter Entry.isPoll ++ r.exchanges transport n := by
  induction n generalizing r with
  | zero => exact (List.append_nil _).symm
  | succ n ih =>
    rw [after, ih, exchanges, entries_step, List.filter_append, World.polls_meet,
      (Batch.step_moves r.batch _).polls, List.append_assoc]
    rfl

theorem polls_told {told : List Entry} {n : Nat} (entries :
    (r.after transport n).world.journal.entries = r.world.journal.entries ++ told) :
    told.filter Entry.isPoll = r.exchanges transport n := by
  have journal := polls_journal transport r n
  rw [entries, List.filter_append] at journal
  exact List.append_cancel_left journal

theorem hear_exchange (position : Nat) (calls : List Asked) :
    hearAll position calls (r.exchange transport) = hearAll position calls
      (r.batch.step (r.world.meet transport r.batch.context r.batch.demand).1).2 := by
  rw [exchange, ← (Batch.step_moves r.batch _).polls, hearAll_polls]

variable {r : BatchRun σ}

theorem step_stands (stands : r.batch.Stands heard) : (r.step transport).batch.Stands
    fun position => hearAll position (heard position) (r.exchange transport) := by
  simp only [hear_exchange, batch_step]
  exact stands.step _

theorem after_stands (stands : r.batch.Stands heard) (n : Nat) :
    (r.after transport n).batch.Stands
      fun position => hearAll position (heard position) (r.exchanges transport n) := by
  induction n generalizing r heard with
  | zero => exact stands
  | succ n ih =>
    simp only [after, exchanges, hearAll_append]
    exact ih (step_stands transport stands)

-- What a step keeps of a run and of what has been told of it, every number of steps keeps.
theorem after_keeps (Keeps : BatchRun σ → List Entry → Prop)
    (once : ∀ (r : BatchRun σ) told, Keeps r told → ∀ events : List Event,
      Keeps (r.step transport) (told ++ (events.map .noted ++
        (r.batch.step (r.world.meet transport r.batch.context r.batch.demand).1).2)))
    (kept : Keeps r told) (n : Nat) :
    ∃ news, (r.after transport n).world.journal.entries = r.world.journal.entries ++ news ∧
      Keeps (r.after transport n) (told ++ news) := by
  induction n generalizing r told with
  | zero => exact ⟨[], (List.append_nil _).symm, (List.append_nil told).symm ▸ kept⟩
  | succ n ih =>
    obtain ⟨events, noted⟩ := World.entries_meet transport r.batch.context r.batch.demand r.world
    obtain ⟨news, entries, later⟩ := ih (once r told kept events)
    refine ⟨_, ?_, List.append_assoc told _ news ▸ later⟩
    rw [after, entries, entries_step, noted]
    simp only [List.append_assoc]

-- Nothing is told of anybody but the operations of the batch.
theorem after_listed (stands : r.batch.Stands heard) (n : Nat) :
    ∃ news, (r.after transport n).world.journal.entries = r.world.journal.entries ++ news ∧
      ∀ entry ∈ news, ∀ job, entry.job? = some job → job ∈ Job.number r.batch.operations := by
  let Listed (s : BatchRun σ) (told : List Entry) : Prop :=
    (∃ heard, s.batch.Stands heard) ∧ s.batch.operations = r.batch.operations ∧
      ∀ entry ∈ told, ∀ job, entry.job? = some job → job ∈ Job.number r.batch.operations
  have listed : Listed r [] := ⟨⟨heard, stands⟩, rfl, fun _ absent => (List.not_mem_nil absent).elim⟩
  have kept := after_keeps transport Listed ?once listed n
  case once =>
    rintro s told ⟨⟨heard, stands⟩, same, listed⟩ events
    have moves := Batch.step_moves s.batch
      (s.world.meet transport s.batch.context s.batch.demand).1
    refine ⟨⟨_, step_stands transport stands⟩, moves.settings.2.2.2.trans same, ?_⟩
    intro entry mem job about
    rcases List.mem_append.mp mem with before | mem
    · exact listed entry before job about
    · rcases List.mem_append.mp mem with noted | now
      · obtain ⟨event, -, rfl⟩ := List.mem_map.mp noted
        cases about
      · rw [← same]
        exact stands.listed (moves.job_of_entry entry now job about)
  obtain ⟨news, entries, -, -, about⟩ := kept
  exact ⟨news, entries, about⟩

variable (r : BatchRun σ)

theorem after_add (m n : Nat) :
    r.after transport (m + n) = (r.after transport m).after transport n := by
  induction m generalizing r with
  | zero => rw [Nat.zero_add, after]
  | succ m ih => rw [Nat.succ_add, after, after, ih]

theorem settings_after (n : Nat) :
    (r.after transport n).batch.context = r.batch.context ∧
      (r.after transport n).batch.transaction = r.batch.transaction ∧
      (r.after transport n).batch.options = r.batch.options ∧
      (r.after transport n).batch.operations = r.batch.operations := by
  induction n generalizing r with
  | zero => exact ⟨rfl, rfl, rfl, rfl⟩
  | succ n ih =>
    obtain ⟨context, transaction, options, operations⟩ := (Batch.step_moves r.batch
      (r.world.meet transport r.batch.context r.batch.demand).1).settings
    obtain ⟨context', transaction', options', operations'⟩ := ih (r.step transport)
    exact ⟨context'.trans context, transaction'.trans transaction, options'.trans options,
      operations'.trans operations⟩

end BatchRun
end Reconcile
