import Mathlib.Data.List.Nodup
import Reconcile.Proofs.World.Exchange

namespace Reconcile

namespace Group

variable {context : Context} {transaction : Option TransactionId} {sight : Sight} {g : Group}

theorem members_start (jobs : List Job) : (start jobs).members = jobs.map Execution.start := by
  simp [start, members]

theorem jobs_start (jobs : List Job) : (start jobs).members.map (·.job) = jobs := by
  simp [members_start, Execution.start, Function.comp_def]

theorem members_of_ahead (next : g.ahead = e :: rest) :
    g.members = g.seen.reverse ++ e :: rest := by
  rw [members, next]

-- A step changes the member whose turn it is and leaves all others where they are.
theorem members_step (next : g.ahead = e :: rest) :
    (g.step context transaction sight).1.members =
      g.seen.reverse ++ ⟨e.job, (e.turn context transaction sight).phase⟩ :: rest := by
  rw [step, next]
  dsimp only
  split
  · simp [members]
  · split <;> simp [members]

theorem mem_members_of_ahead (next : g.ahead = e :: rest) :
    other ∈ g.members ↔ other = e ∨ (other ∈ g.seen.reverse ∨ other ∈ rest) := by
  rw [members_of_ahead next, List.mem_append, List.mem_cons]
  exact or_left_comm

theorem mem_members_step (next : g.ahead = e :: rest) :
    other ∈ (g.step context transaction sight).1.members ↔
      other = ⟨e.job, (e.turn context transaction sight).phase⟩ ∨
        (other ∈ g.seen.reverse ∨ other ∈ rest) := by
  rw [members_step next, List.mem_append, List.mem_cons]
  exact or_left_comm

theorem members_step_of_nil (none : g.ahead = []) :
    (g.step context transaction sight).1.members = g.members := by
  rw [step_of_nil none]
  split
  · rfl
  · simp [nextRound, members]

theorem jobs_step : (g.step context transaction sight).1.members.map (·.job) =
    g.members.map (·.job) := by
  cases next : g.ahead with
  | nil => rw [members_step_of_nil next]
  | cons e rest => simp [members_step next, members_of_ahead next]

theorem mem_results {job : Job} {result : Except Failure Unit} :
    (job, result) ∈ g.results ↔ ∃ e ∈ g.members, e.job = job ∧ e.phase = .finished result := by
  simp only [results, List.mem_filterMap]
  refine exists_congr fun e => and_congr_right fun _ => ?_
  split
  · simp_all
  · rename_i other
    simp only [reduceCtorEq, false_iff, not_and]
    exact fun _ ended => other _ ended

theorem sound_iff : g.fault? = none ↔ ∀ e ∈ g.members, ∀ fault, e.phase ≠ .broken fault := by
  rw [fault?, List.findSome?_eq_none_iff]
  refine forall_congr' fun e => imp_congr_right fun _ => ?_
  split
  · rename_i fault broken
    exact ⟨nofun, fun never => absurd broken (never fault)⟩
  · rename_i never
    exact ⟨fun _ => never, fun _ => rfl⟩

theorem ended_of_mem (complete : g.ended = true) (mem : e ∈ g.members) : e.ended = true := by
  rw [ended, Bool.and_eq_true, List.isEmpty_iff, List.all_eq_true] at complete
  rw [members, complete.1, List.append_nil, List.mem_reverse] at mem
  exact complete.2 e mem

theorem finished_of_mem (complete : g.ended = true) (sound : g.fault? = none)
    (mem : e ∈ g.members) : ∃ result, e.phase = .finished result := by
  have last := ended_of_mem complete mem
  unfold Execution.ended at last
  split at last
  · exact ⟨_, ‹_›⟩
  · exact absurd ‹_› (sound_iff.mp sound e mem _)
  · cases last

-- A step that is over without a fault has a result for each of its operations.
theorem results_jobs (complete : g.ended = true) (sound : g.fault? = none) :
    g.results.map (·.1) = g.members.map (·.job) := by
  rw [results, List.map_filterMap, ← List.filterMap_eq_map]
  apply List.filterMap_congr
  intro e mem
  obtain ⟨result, last⟩ := finished_of_mem complete sound mem
  simp only [last, Option.map_some, Function.comp_apply]

theorem start_sound (jobs : List Job) : (start jobs).fault? = none := by
  rw [sound_iff, members_start]
  intro e mem fault broken
  obtain ⟨job, -, rfl⟩ := List.mem_map.mp mem
  cases broken

-- Every member has come as far as the calls made for its position say.
structure Stands (policy : Policy) (transaction : Option TransactionId)
    (calls : Nat → List Asked) (g : Group) : Prop where
  distinct : (g.members.map (·.job.position)).Nodup
  standing : ∀ e ∈ g.members,
    Standing policy transaction e.job.operation (calls e.job.position) e.phase

theorem start_stands (policy : Policy) (transaction : Option TransactionId)
    {calls : Nat → List Asked} {jobs : List Job} (distinct : (jobs.map (·.position)).Nodup)
    (silent : ∀ job ∈ jobs, calls job.position = []) :
    Stands policy transaction calls (start jobs) := by
  constructor
  · rw [members_start, List.map_map]
    exact distinct
  · intro e mem
    rw [members_start] at mem
    obtain ⟨job, own, rfl⟩ := List.mem_map.mp mem
    rw [Execution.start, silent job own]
    exact .fresh

theorem positions_step : (g.step context transaction sight).1.members.map (·.job.position) =
    g.members.map (·.job.position) := by
  have jobs := congrArg (List.map Job.position)
    (@jobs_step context transaction sight g)
  rwa [List.map_map, List.map_map] at jobs

-- Positions of others differ from that of the member whose turn it is.
theorem other_position (distinct : (g.members.map (·.job.position)).Nodup)
    (next : g.ahead = e :: rest) (mem : other ∈ g.seen.reverse ∨ other ∈ rest) :
    e.job.position ≠ other.job.position := by
  rw [members_of_ahead next, List.map_append, List.map_cons, List.nodup_append] at distinct
  obtain ⟨_, later, apart⟩ := distinct
  rcases mem with earlier | behind
  · have := apart _ (List.mem_map_of_mem earlier) _ (List.mem_cons_self ..)
    exact this.symm
  · have absent := (List.nodup_cons.mp later).1
    intro same
    exact absent (same ▸ List.mem_map_of_mem behind)

theorem Stands.step {calls : Nat → List Asked}
    (stands : g.Stands context.policy transaction calls) (sight : Sight) :
    Stands context.policy transaction
      (fun position => hearAll position (calls position) (g.step context transaction sight).2)
      (g.step context transaction sight).1 := by
  constructor
  · rw [positions_step]
    exact stands.distinct
  · cases next : g.ahead with
    | nil =>
      intro e mem
      rw [members_step_of_nil next] at mem
      rw [step_of_nil next, hearAll_nil]
      exact stands.standing e mem
    | cons e rest =>
      have own : ∀ entry ∈ (e.turn context transaction sight).entries, entry.job? = some e.job :=
        Execution.turn_entries_job context sight e
      intro after mem
      rw [entries_step next]
      rcases (mem_members_step next).mp mem with rfl | other
      · have before := stands.standing e ((mem_members_of_ahead next).mpr (.inl rfl))
        exact Execution.turn_stands context sight before
      · rw [hearAll_other own (other_position stands.distinct next other)]
        exact stands.standing after ((mem_members_of_ahead next).mpr (.inr other))

-- A step speaks of a member.
theorem job_of_entry : ∀ entry ∈ (g.step context transaction sight).2, ∀ job,
    entry.job? = some job → job ∈ g.members.map (·.job) := by
  intro entry mem job about
  cases next : g.ahead with
  | nil =>
    rw [step_of_nil next] at mem
    cases mem
  | cons e rest =>
    rw [entries_step next] at mem
    cases (Execution.turn_entries_job context sight e entry mem).symm.trans about
    exact List.mem_map_of_mem ((mem_members_of_ahead next).mpr (.inl rfl))

-- Nothing is heard of a position that no member has.
theorem hear_step_of_absent {position : Nat} (absent : position ∉ g.members.map (·.job.position))
    (calls : List Asked) :
    hearAll position calls (g.step context transaction sight).2 = calls := by
  cases next : g.ahead with
  | nil => rw [step_of_nil next, hearAll_nil]
  | cons e rest =>
    rw [entries_step next]
    apply hearAll_other (Execution.turn_entries_job context sight e)
    intro same
    apply absent
    rw [← same]
    exact List.mem_map_of_mem ((mem_members_of_ahead next).mpr (.inl rfl))

-- A member that has finished stays where it is, and so do its calls.
theorem step_finished {job : Job} {result : Except Failure Unit}
    (distinct : (g.members.map (·.job.position)).Nodup) (complete : (job, result) ∈ g.results)
    (calls : List Asked) : (job, result) ∈ (g.step context transaction sight).1.results ∧
      hearAll job.position calls (g.step context transaction sight).2 = calls := by
  obtain ⟨e, mem, rfl, ended⟩ := mem_results.mp complete
  cases next : g.ahead with
  | nil =>
    constructor
    · rw [mem_results, members_step_of_nil next]
      exact ⟨e, mem, rfl, ended⟩
    · rw [step_of_nil next, hearAll_nil]
  | cons first rest =>
    rcases (mem_members_of_ahead next).mp mem with rfl | other
    · have still : e.turn context transaction sight = ⟨e.phase, [], none⟩ := by
        simp only [Execution.turn, ended]
      constructor
      · refine mem_results.mpr ⟨e, (mem_members_step next).mpr (.inl ?_), rfl, ended⟩
        rw [still]
      · rw [entries_step next, still, hearAll_nil]
    · constructor
      · exact mem_results.mpr ⟨e, (mem_members_step next).mpr (.inr other), rfl, ended⟩
      · rw [entries_step next]
        exact hearAll_other (Execution.turn_entries_job context sight first)
          (other_position distinct next other) calls

-- A member is known by its position, so its results are its own.
theorem result_of_mem {result : Except Failure Unit}
    (distinct : (g.members.map (·.job.position)).Nodup) (mem : e ∈ g.members) :
    (e.job, result) ∈ g.results ↔ e.phase = .finished result := by
  constructor
  · intro ends
    obtain ⟨other, mem', same, last⟩ := mem_results.mp ends
    have one := List.inj_on_of_nodup_map distinct mem' mem (by rw [same])
    rwa [one] at last
  · intro last
    exact mem_results.mpr ⟨e, mem, rfl, last⟩

theorem result_unique {job : Job} {result other : Except Failure Unit}
    (distinct : (g.members.map (·.job.position)).Nodup) (ends : (job, result) ∈ g.results)
    (again : (job, other) ∈ g.results) : result = other := by
  obtain ⟨e, mem, rfl, last⟩ := mem_results.mp ends
  rw [result_of_mem distinct mem, last] at again
  cases again
  rfl

theorem ahead_of_demand (asks : g.demand = .poll job call count) :
    ∃ e rest, g.ahead = e :: rest ∧ e.job = job ∧ e.call? = some (call, count) := by
  unfold demand at asks
  split at asks
  · split at asks <;> cases asks
  · split at asks
    · cases asks
      exact ⟨_, _, ‹_›, rfl, ‹_›⟩
    · cases asks

end Group

-- The operation whose call is demanded is at this point of its protocol.
def Demand.Justified (policy : Policy) (transaction : Option TransactionId)
    (heard : Nat → List Asked) (demand : Demand) : Prop :=
  ∀ job call count, demand = .poll job call count → (∃ due, call = .pause due) ∨
    ∃ mutation calls attempts, heard job.position = asking call count calls ∧
      Asks policy mutation transaction calls call attempts

theorem Group.Stands.justified {policy : Policy} {transaction : Option TransactionId}
    {heard : Nat → List Asked} {g : Group} (stands : g.Stands policy transaction heard) :
    g.demand.Justified policy transaction heard := by
  intro job call count demanded
  obtain ⟨e, rest, next, rfl, waits⟩ := Group.ahead_of_demand demanded
  have standing := stands.standing e ((Group.mem_members_of_ahead next).mpr (.inl rfl))
  rcases standing.asks_of_call waits with pause | ⟨mutation, calls, attempts, -, spoken, asks⟩
  · exact .inl pause
  · exact .inr ⟨mutation, calls, attempts, spoken, asks⟩

end Reconcile
