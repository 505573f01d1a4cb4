import Mathlib.Data.List.Forall2
import Reconcile.Proofs.Batch.Stages

namespace Reconcile

def Entry.submitter? : Entry → Option Job
  | .polled job (.submit _) _ _ => some job
  | _ => none

theorem Entry.job_of_submitter {entry : Entry} {job : Job}
    (submits : entry.submitter? = some job) : entry.job? = some job := by
  unfold submitter? at submits
  split at submits
  · cases submits
    rfl
  · cases submits

-- Puts a job at the end of those that are known already, unless it is one of them.
def enlist (known : List Job) (job : Job) : List Job :=
  if job.position ∈ known.map (·.position) then known else known ++ [job]

-- Whoever submits something, in the order of the first submissions.
def submitters (entries : List Entry) : List Job :=
  (entries.filterMap Entry.submitter?).foldl enlist []

theorem submitters_append (earlier later : List Entry) : submitters (earlier ++ later) =
    (later.filterMap Entry.submitter?).foldl enlist (submitters earlier) := by
  rw [submitters, List.filterMap_append, List.foldl_append, submitters]

theorem enlist_known {known : List Job} {job : Job} (mem : job.position ∈ known.map (·.position)) :
    enlist known job = known := if_pos mem

theorem position_mem_enlist (known : List Job) (job : Job) :
    job.position ∈ (enlist known job).map (·.position) := by
  unfold enlist
  split
  · assumption
  · simp

theorem position_mem_enlist_of_mem {known : List Job} {position : Nat}
    (mem : position ∈ known.map (·.position)) (job : Job) :
    position ∈ (enlist known job).map (·.position) := by
  unfold enlist
  split
  · exact mem
  · rw [List.map_append]
    exact List.mem_append_left _ mem

theorem enlist_sublist {known jobs : List Job} (within : known.Sublist jobs) (job : Job) :
    (enlist known job).Sublist (jobs ++ [job]) := by
  unfold enlist
  split
  · exact within.trans (List.sublist_append_left ..)
  · exact within.append_right [job]

-- Those that are new come after those that are known.
theorem foldl_enlist (jobs known : List Job) :
    ∃ more, jobs.foldl enlist known = known ++ more ∧ ∀ job ∈ more, job ∈ jobs := by
  induction jobs generalizing known with
  | nil => exact ⟨[], (List.append_nil known).symm, fun _ absent => absent⟩
  | cons job rest ih =>
    obtain ⟨more, all, listed⟩ := ih (enlist known job)
    rw [List.foldl_cons, all]
    unfold enlist
    split
    · exact ⟨more, rfl, fun other mem => List.mem_cons_of_mem _ (listed other mem)⟩
    · refine ⟨job :: more, List.append_assoc known [job] more, fun other mem => ?_⟩
      rcases List.mem_cons.mp mem with rfl | later
      · exact List.mem_cons_self
      · exact List.mem_cons_of_mem _ (listed other later)

theorem nodup_foldl_enlist (jobs : List Job) {known : List Job}
    (distinct : (known.map (·.position)).Nodup) :
    ((jobs.foldl enlist known).map (·.position)).Nodup := by
  induction jobs generalizing known with
  | nil => exact distinct
  | cons job rest ih =>
    refine ih ?_
    unfold enlist
    split
    · exact distinct
    · rename_i fresh
      rw [List.map_append, List.nodup_append]
      refine ⟨distinct, List.nodup_singleton _, ?_⟩
      rintro position mem _ single rfl
      have same : position = job.position := List.mem_singleton.mp single
      exact fresh (same ▸ mem)

theorem nodup_submitters (entries : List Entry) :
    ((submitters entries).map (·.position)).Nodup :=
  nodup_foldl_enlist _ List.nodup_nil

theorem position_mem_foldl_enlist (jobs known : List Job) {position : Nat}
    (mem : position ∈ known.map (·.position) ∨ position ∈ jobs.map (·.position)) :
    position ∈ (jobs.foldl enlist known).map (·.position) := by
  induction jobs generalizing known with
  | nil =>
    rcases mem with mem | absent
    · exact mem
    · cases absent
  | cons job rest ih =>
    refine ih (enlist known job) ?_
    rcases mem with mem | mem
    · exact .inl (position_mem_enlist_of_mem mem job)
    · rcases List.mem_cons.mp mem with rfl | later
      · exact .inl (position_mem_enlist known job)
      · exact .inr later

-- Nobody who submits something is left out.
theorem position_mem_submitters {entries : List Entry} {entry : Entry} {job : Job}
    (mem : entry ∈ entries) (submits : entry.submitter? = some job) :
    job.position ∈ (submitters entries).map (·.position) :=
  position_mem_foldl_enlist _ _
    (.inr (List.mem_map_of_mem (List.mem_filterMap.mpr ⟨entry, mem, submits⟩)))

-- Jobs in the order of steps: those of one step in any order, and not necessarily all of them.
def InTurn (known : List Job) (steps : List (List Job)) : Prop :=
  ∃ turns, known = turns.flatten ∧
    List.Forall₂ (fun turn step => ∀ job ∈ turn, job ∈ step) turns steps

namespace InTurn

variable {known now step : List Job} {steps more : List (List Job)}

theorem nil : InTurn [] [] := ⟨[], rfl, .nil⟩

-- One more step, and those of it that come.
theorem next (inTurn : InTurn known steps) (own : ∀ job ∈ now, job ∈ step) :
    InTurn (known ++ now) (steps ++ [step]) := by
  obtain ⟨turns, rfl, within⟩ := inTurn
  refine ⟨turns ++ [now], by simp, ?_⟩
  exact List.rel_append within (.cons own .nil)

-- More steps, of which nobody comes.
theorem idle (inTurn : InTurn known steps) (more : List (List Job)) :
    InTurn known (steps ++ more) := by
  induction more generalizing steps with
  | nil =>
    rw [List.append_nil]
    exact inTurn
  | cons step more ih =>
    have once : InTurn (known ++ []) (steps ++ [step]) :=
      inTurn.next fun _ absent => (List.not_mem_nil absent).elim
    rw [List.append_nil] at once
    rw [List.append_cons]
    exact ih once

theorem mem_of_mem_turns {turns : List (List Job)} {job : Job}
    (within : List.Forall₂ (fun turn step => ∀ job ∈ turn, job ∈ step) turns steps)
    (mem : job ∈ turns.flatten) : ∃ step ∈ steps, job ∈ step := by
  induction within with
  | nil => cases mem
  | cons own rest ih =>
    rcases List.mem_append.mp mem with now | later
    · exact ⟨_, List.mem_cons_self, own job now⟩
    · obtain ⟨step, found, mem⟩ := ih later
      exact ⟨step, List.mem_cons_of_mem _ found, mem⟩

theorem subset (inTurn : InTurn known steps) {job : Job} (mem : job ∈ known) :
    job ∈ steps.flatten := by
  obtain ⟨turns, rfl, within⟩ := inTurn
  obtain ⟨step, found, mem⟩ := mem_of_mem_turns within mem
  exact List.mem_flatten_of_mem found mem

-- Whatever holds of two jobs of one step, and of two jobs of different steps in their order, holds
-- of two jobs in the order in which they come.
theorem pairwise {R : Job → Job → Prop} (inTurn : InTurn known steps)
    (within : ∀ step ∈ steps, ∀ a ∈ step, ∀ b ∈ step, R a b)
    (across : steps.Pairwise fun earlier later => ∀ a ∈ earlier, ∀ b ∈ later, R a b) :
    known.Pairwise R := by
  obtain ⟨turns, rfl, inTurn⟩ := inTurn
  induction inTurn with
  | nil => exact .nil
  | @cons turn step turns steps own rest ih =>
    obtain ⟨here, across⟩ := List.pairwise_cons.mp across
    have together := within step List.mem_cons_self
    rw [List.flatten_cons, List.pairwise_append]
    refine ⟨?_, ih (fun step mem => within step (List.mem_cons_of_mem _ mem)) across, ?_⟩
    · exact List.pairwise_of_forall_mem_list fun a one b two => together a (own a one) b (own b two)
    · intro a one b two
      obtain ⟨later, mem, two⟩ := mem_of_mem_turns rest two
      exact here later mem a (own a one) b two

-- If all jobs of the steps come, each step comes as a whole before the next one.
theorem whole (inTurn : InTurn known steps) (distinct : known.Nodup)
    (apart : steps.flatten.Nodup) (all : ∀ job ∈ steps.flatten, job ∈ known) :
    ∃ turns, known = turns.flatten ∧ List.Forall₂ List.Perm turns steps := by
  obtain ⟨turns, rfl, inTurn⟩ := inTurn
  refine ⟨turns, rfl, ?_⟩
  induction inTurn with
  | nil => exact .nil
  | @cons turn step turns steps own rest ih =>
    rw [List.flatten_cons] at distinct apart all
    rw [List.nodup_append] at distinct apart
    obtain ⟨single, distinct, -⟩ := distinct
    obtain ⟨single', apart, foreign⟩ := apart
    have other : ∀ job ∈ step, job ∉ turns.flatten := by
      intro job mem late
      obtain ⟨later, found, mem'⟩ := mem_of_mem_turns rest late
      exact foreign job mem job (List.mem_flatten_of_mem found mem') rfl
    refine .cons ?_ (ih apart distinct fun job mem => ?_)
    · rw [List.perm_ext_iff_of_nodup single single']
      refine fun job => ⟨own job, fun mem => ?_⟩
      exact (List.mem_append.mp (all job (List.mem_append_left _ mem))).resolve_right (other job mem)
    · rcases List.mem_append.mp (all job (List.mem_append_right _ mem)) with early | late
      · exact absurd rfl (foreign job (own job early) job mem)
      · exact late

end InTurn

-- Steps of one job each leave no choice.
theorem flatten_of_singles {turns : List (List Job)} {jobs : List Job}
    (perms : List.Forall₂ List.Perm turns (jobs.map ([·]))) : turns.flatten = jobs := by
  induction jobs generalizing turns with
  | nil =>
    cases perms
    rfl
  | cons job jobs ih =>
    cases perms with
    | cons one rest =>
      rw [List.perm_singleton] at one
      rw [one, List.flatten_cons, ih rest]
      rfl

-- A law for those that have submitted something, by the steps that are over and by the step that is
-- running: it holds before the first step, whenever a step begins, after each turn of one, and when
-- one is over.
structure Course (context : Context) (transaction : Option TransactionId) where
  past : List (List Job) → List Job → Prop
  within : List (List Job) → Group → List Job → Prop
  nothing : past [] []
  enters : past done known → within done (.start jobs) known
  turns : within done g known → ∀ sight, within done (g.step context transaction sight).1
    (((g.step context transaction sight).2.filterMap Entry.submitter?).foldl enlist known)
  leaves : within done g known → past (done ++ [g.members.map (·.job)]) known

-- Nobody comes before somebody of an earlier step.
def Course.inTurn (context : Context) (transaction : Option TransactionId) :
    Course context transaction where
  past done known := InTurn known done
  within done g known := ∃ before now, known = before ++ now ∧ InTurn before done ∧
    ∀ job ∈ now, job ∈ g.members.map (·.job)
  nothing := .nil
  enters inTurn := ⟨_, [], (List.append_nil _).symm, inTurn,
    fun _ absent => (List.not_mem_nil absent).elim⟩
  turns := by
    rintro done g known ⟨before, now, rfl, inTurn, own⟩ sight
    -- Whoever submits something in a turn is a member of the running step.
    obtain ⟨more, all, new⟩ := foldl_enlist
      ((g.step context transaction sight).2.filterMap Entry.submitter?) (before ++ now)
    refine ⟨before, now ++ more, by rw [all, List.append_assoc], inTurn, fun job mem => ?_⟩
    rw [Group.jobs_step]
    rcases List.mem_append.mp mem with earlier | later
    · exact own job earlier
    · obtain ⟨entry, told, submits⟩ := List.mem_filterMap.mp (new job later)
      exact Group.job_of_entry entry told job (Entry.job_of_submitter submits)
  leaves := by
    rintro done g known ⟨before, now, rfl, inTurn, own⟩
    exact inTurn.next own

namespace Batch

variable {context : Context} {transaction : Option TransactionId}
  {course : Course context transaction} {b : Batch} {known : List Job} {group : Group}
  {left : List (List Job)}

-- What the law says where a batch is.
def Keeps (course : Course context transaction) (b : Batch) (known : List Job) : Prop :=
  match b.stage with
  | .fresh => known = []
  | .between left => ∃ done, b.steps = done ++ left ∧ course.past done known
  | .running group left => ∃ done, b.steps = done ++ group.members.map (·.job) :: left ∧
      course.within done group known
  | .finished | .broken _ => ∃ done left, b.steps = done ++ left ∧ course.past done known

theorem Keeps.of_between (keeps : Keeps course b known) (stage : b.stage = .between left) :
    ∃ done, b.steps = done ++ left ∧ course.past done known := by
  rw [Keeps, stage] at keeps
  exact keeps

theorem Keeps.of_running (keeps : Keeps course b known) (stage : b.stage = .running group left) :
    ∃ done, b.steps = done ++ group.members.map (·.job) :: left ∧
      course.within done group known := by
  rw [Keeps, stage] at keeps
  exact keeps

-- A step that is over counts among those that have been begun.
theorem Keeps.of_over (keeps : Keeps course b known) (stage : b.stage = .running group left) :
    ∃ done, b.steps = done ++ left ∧ course.past done known := by
  obtain ⟨done, steps, within⟩ := keeps.of_running stage
  exact ⟨_, by rw [steps, List.append_cons], course.leaves within⟩

theorem close_keeps {done : List (List Job)} {before : List Entry}
    (quiet : before.filterMap Entry.submitter? = []) (steps : b.steps = done ++ left)
    (past : course.past done known) (report : Report) :
    Keeps course (b.close report left before).1
      (((b.close report left before).2.filterMap Entry.submitter?).foldl enlist known) := by
  have silent : (b.close report left before).2.filterMap Entry.submitter? = [] := by
    rw [close, List.filterMap_append, quiet]
    rfl
  rw [silent]
  exact ⟨done, left, steps, past⟩

theorem Moves.keeps {course : Course b.context b.transaction} {sight : Sight}
    {after : Batch × List Entry} (moves : b.Moves sight after) (keeps : Keeps course b known) :
    Keeps course after.1 ((after.2.filterMap Entry.submitter?).foldl enlist known) := by
  cases moves with
  | starts stage =>
    rw [Keeps, stage] at keeps
    subst keeps
    exact ⟨[], rfl, course.nothing⟩
  | completes stage =>
    obtain ⟨done, steps, past⟩ := keeps.of_between stage
    exact close_keeps rfl steps past _
  | stopped stage =>
    obtain ⟨done, steps, past⟩ := keeps.of_between stage
    exact close_keeps rfl steps past _
  | enters stage =>
    obtain ⟨done, steps, past⟩ := keeps.of_between stage
    refine ⟨done, ?_, course.enters past⟩
    rw [Group.jobs_start]
    exact steps
  | fails stage =>
    obtain ⟨done, steps, past⟩ := keeps.of_over stage
    exact close_keeps rfl steps past _
  | leaves stage => exact keeps.of_over stage
  | @breaks group left fault stage =>
    obtain ⟨done, steps, within⟩ := keeps.of_running stage
    refine ⟨_, left, ?_, course.leaves (course.turns within sight)⟩
    rw [Group.jobs_step, List.append_assoc]
    exact steps
  | turns stage =>
    obtain ⟨done, steps, within⟩ := keeps.of_running stage
    refine ⟨done, ?_, course.turns within sight⟩
    rw [Group.jobs_step]
    exact steps
  | rests ended => exact keeps

theorem Keeps.step (keeps : Keeps course b known) (given : b.context = context)
    (given' : b.transaction = transaction) (sight : Sight) :
    Keeps course (b.step sight).1
      (((b.step sight).2.filterMap Entry.submitter?).foldl enlist known) := by
  subst given given'
  exact (step_moves b sight).keeps keeps

-- Wherever a batch is, the law holds of the steps that have been begun.
theorem Keeps.past (keeps : Keeps course b known) :
    ∃ done left, b.steps = done ++ left ∧ course.past done known := by
  cases stage : b.stage with
  | fresh =>
    rw [Keeps, stage] at keeps
    subst keeps
    exact ⟨[], b.steps, rfl, course.nothing⟩
  | between left =>
    obtain ⟨done, began⟩ := keeps.of_between stage
    exact ⟨done, left, began⟩
  | running group left =>
    obtain ⟨done, began⟩ := keeps.of_over stage
    exact ⟨done, left, began⟩
  | _ =>
    rw [Keeps, stage] at keeps
    exact keeps

end Batch
end Reconcile
