import Reconcile.Schedule.Steps

namespace Reconcile

theorem Job.map_operation_number (ops : List Operation) :
    (Job.number ops).map (·.operation) = ops := by
  simp [Job.number, Function.comp_def]

theorem Job.mem_of_number {ops : List Operation} {job : Job} (listed : job ∈ number ops) :
    job.operation ∈ ops := by
  rw [← map_operation_number ops]
  exact List.mem_map_of_mem listed

theorem Job.map_position_number (ops : List Operation) :
    (Job.number ops).map (·.position) = List.range ops.length := by
  rw [Job.number, List.map_map, List.range_eq_range']
  exact List.zipIdx_map_snd 0 ops

theorem Job.ascending_number (ops : List Operation) :
    (Job.number ops).Pairwise (·.position < ·.position) := by
  have sorted := List.pairwise_lt_range (n := ops.length)
  rwa [← map_position_number, List.pairwise_map] at sorted

theorem Job.nodup_position_number (ops : List Operation) :
    ((Job.number ops).map (·.position)).Nodup := by
  rw [map_position_number]
  exact List.nodup_range

namespace Steps

theorem flatten_runs (jobs : List Job) : (runs jobs).flatten = jobs := by
  induction jobs with
  | nil => rfl
  | cons job rest ih =>
    simp only [runs]
    split
    · rename_i next more others same
      rw [same] at ih
      split <;> simpa using ih
    · simpa using ih

theorem flatten_ofRun (run : List Job) :
    (ofRun run).flatten = run.filter (independent run) ++ run.filter (!independent run ·) := by
  have singles : ∀ jobs : List Job, (jobs.map ([·])).flatten = jobs := fun jobs => by
    simp [← List.flatMap_def]
  simp only [ofRun, List.partition_eq_filter_filter, List.flatten_append, singles]
  split
  · rename_i none
    rw [List.isEmpty_iff.mp none]
    rfl
  · simp [Function.comp_def]

-- The steps hold every job of the batch once.
theorem flatten_plan_perm (concurrent : Bool) (jobs : List Job) :
    (plan concurrent jobs).flatten.Perm jobs := by
  cases concurrent with
  | false => simp [plan, ← List.flatMap_def]
  | true =>
    simp only [plan, if_true]
    conv => rhs; rw [← flatten_runs jobs]
    induction runs jobs with
    | nil => simp
    | cons run rest ih =>
      rw [List.flatMap_cons, List.flatten_append, List.flatten_cons, flatten_ofRun]
      exact (List.filter_append_perm ..).append ih

-- Jobs on positional lists are carried out alone, so they stay in their order.
theorem filter_flatten_plan (concurrent : Bool) (jobs : List Job) (p : Job → Bool)
    (indexed : ∀ job ∈ jobs, p job = true → job.operation.kind.shape = .indexedChild) :
    (plan concurrent jobs).flatten.filter p = jobs.filter p := by
  cases concurrent with
  | false => simp [plan, ← List.flatMap_def]
  | true =>
    simp only [plan, if_true]
    rw [← flatten_runs jobs] at indexed
    conv => rhs; rw [← flatten_runs jobs]
    generalize runs jobs = groups at indexed
    induction groups with
    | nil => simp
    | cons run rest ih =>
      rw [List.flatten_cons] at indexed
      have later := ih fun job mem => indexed job (List.mem_append_right _ mem)
      have together : (run.filter (independent run)).filter p = [] := by
        rw [List.filter_filter, List.filter_eq_nil_iff]
        intro job mem both
        rw [Bool.and_eq_true] at both
        have shape := indexed job (List.mem_append_left _ mem) both.1
        simp [independent, shape] at both
      have alone : (run.filter (!independent run ·)).filter p = run.filter p := by
        rw [List.filter_filter]
        refine List.filter_congr fun job mem => ?_
        cases on : p job with
        | false => rfl
        | true =>
          have shape := indexed job (List.mem_append_left _ mem) on
          simp [independent, shape]
      rw [List.flatMap_cons, List.flatten_append, List.flatten_cons, flatten_ofRun,
        List.filter_append, List.filter_append, List.filter_append, together, alone, later,
        List.nil_append]

end Steps
end Reconcile
