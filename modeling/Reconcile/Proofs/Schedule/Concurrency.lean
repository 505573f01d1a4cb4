import Reconcile.Proofs.Schedule.Steps

namespace Reconcile.Steps

variable {jobs run step : List Job}

theorem ascending_run (ascending : jobs.Pairwise (·.position < ·.position))
    (mem : run ∈ runs jobs) : run.Pairwise (·.position < ·.position) := by
  rw [← flatten_runs jobs, List.pairwise_flatten] at ascending
  exact ascending.1 run mem

theorem mem_ofRun (mem : step ∈ ofRun run) :
    step = run.filter (independent run) ∨ ∃ job ∈ run, step = [job] := by
  simp only [ofRun, List.partition_eq_filter_filter] at mem
  rcases List.mem_append.mp mem with together | alone
  · split at together
    · cases together
    · exact .inl (List.mem_singleton.mp together)
  · obtain ⟨job, found, rfl⟩ := List.mem_map.mp alone
    exact .inr ⟨job, (List.mem_filter.mp found).1, rfl⟩

theorem mem_of_mem_ofRun {job : Job} (part : step ∈ ofRun run) (mem : job ∈ step) : job ∈ run := by
  rcases mem_ofRun part with rfl | ⟨own, found, rfl⟩
  · exact (List.mem_filter.mp mem).1
  · rw [List.mem_singleton.mp mem]
    exact found

-- One job may be carried out before another of its run that stands ahead of it if it leaves all
-- others of the run alone.
def Overtakes (jobs : List Job) (second first : Job) : Prop :=
  ∃ run ∈ runs jobs, first ∈ run ∧ second ∈ run ∧ independent run second = true

-- Whatever comes before something of an earlier step, or of its own, may be overtaken by it.
def Passes (jobs : List Job) (earlier later : List Job) : Prop :=
  ∀ second ∈ earlier, ∀ first ∈ later, first.position < second.position →
    Overtakes jobs second first

theorem passes_of_mem_ofRun (mem : run ∈ runs jobs) (part : step ∈ ofRun run) :
    Passes jobs step step := by
  rcases mem_ofRun part with rfl | ⟨job, -, rfl⟩
  · intro second two first one _
    obtain ⟨two, free⟩ := List.mem_filter.mp two
    exact ⟨run, mem, (List.mem_filter.mp one).1, two, free⟩
  · intro second two first one before
    rw [List.mem_singleton.mp one, List.mem_singleton.mp two] at before
    exact absurd before (Nat.lt_irrefl _)

theorem pairwise_ofRun (ascending : jobs.Pairwise (·.position < ·.position))
    (mem : run ∈ runs jobs) : (ofRun run).Pairwise (Passes jobs) := by
  simp only [ofRun, List.partition_eq_filter_filter]
  rw [List.pairwise_append]
  refine ⟨?_, ?_, ?_⟩
  · split
    · exact .nil
    · exact List.pairwise_singleton ..
  · -- Those that are carried out alone stay in their order.
    rw [List.pairwise_map]
    refine ((ascending_run ascending mem).filter _).imp fun {a b} order => ?_
    intro second two first one before
    rw [List.mem_singleton.mp one, List.mem_singleton.mp two] at before
    omega
  · intro together found alone mem' second two first one before
    split at found
    · cases found
    · rw [List.mem_singleton.mp found] at two
      obtain ⟨job, own, rfl⟩ := List.mem_map.mp mem'
      rw [List.mem_singleton.mp one] at before ⊢
      obtain ⟨two, free⟩ := List.mem_filter.mp two
      exact ⟨run, mem, (List.mem_filter.mp own).1, two, free⟩

theorem passes_plan (ascending : jobs.Pairwise (·.position < ·.position)) :
    (plan true jobs).Pairwise (Passes jobs) := by
  simp only [plan, if_true]
  rw [List.pairwise_flatMap]
  refine ⟨fun run mem => pairwise_ofRun ascending mem, ?_⟩
  have apart := ascending
  rw [← flatten_runs jobs, List.pairwise_flatten] at apart
  refine apart.2.imp fun {a b} order => ?_
  intro earlier left later right second two first one before
  have := order second (mem_of_mem_ofRun left two) first (mem_of_mem_ofRun right one)
  omega

end Reconcile.Steps
