import Reconcile.Proofs.Batch.Group
import Reconcile.Proofs.Batch.Report
import Reconcile.Proofs.Schedule.Steps

namespace Reconcile

namespace Group

variable {policy : Policy} {transaction : Option TransactionId} {heard : Nat → List Asked}
  {g : Group}

theorem Stands.fits (stands : g.Stands policy transaction heard) :
    ∀ entry ∈ g.results, Report.Fits (heard entry.1.position) entry.2 := by
  rintro ⟨job, result⟩ mem
  obtain ⟨e, member, rfl, last⟩ := mem_results.mp mem
  have standing := stands.standing e member
  cases result with
  | ok done => exact standing.acknowledged last
  | error failure =>
    apply standing.unacknowledged
    rw [last]
    nofun

end Group

namespace Batch

-- Where a batch is that has not come to its end: what it has reported, what it is at, and what is
-- left, which is all there is, and nothing has been heard yet of what is left.
structure Going (b : Batch) (heard : Nat → List Asked) (now : List Job)
    (left : List (List Job)) : Prop where
  told : b.report.Tells heard
  whole : (b.report.jobs ++ (now ++ left.flatten)).Perm (Job.number b.operations)
  unskipped : b.report.skipped = []
  silent : ∀ job ∈ left.flatten, heard job.position = []

inductive Stands (b : Batch) (heard : Nat → List Asked) : Prop where
  | fresh (stage : b.stage = .fresh) (going : b.Going heard [] b.steps)
  | between (stage : b.stage = .between left) (going : b.Going heard [] left)
  | running (stage : b.stage = .running group left)
      (going : b.Going heard (group.members.map (·.job)) left)
      (standing : group.Stands b.context.policy b.transaction heard) (sound : group.fault? = none)
  | finished (stage : b.stage = .finished) (told : b.report.Tells heard)
      (whole : b.report.jobs.Perm (Job.number b.operations))
  | broken (stage : b.stage = .broken fault)

theorem start_stands (context : Context) (transaction : Option TransactionId)
    (options : BatchOptions) (schedule : Schedule) :
    (start context transaction options schedule).Stands fun _ => [] := by
  refine .fresh rfl ⟨.empty _, ?_, rfl, fun _ _ => rfl⟩
  exact Steps.flatten_plan_perm ..

namespace Going

variable {b : Batch} {heard : Nat → List Asked} {now : List Job} {left : List (List Job)}

theorem distinct (going : b.Going heard now left) :
    ((b.report.jobs ++ (now ++ left.flatten)).map (·.position)).Nodup :=
  (going.whole.map _).nodup_iff.mpr (Job.nodup_position_number b.operations)

theorem distinct_now (going : b.Going heard now left) : (now.map (·.position)).Nodup := by
  have distinct := going.distinct
  rw [List.map_append, List.map_append] at distinct
  exact (List.nodup_append.mp (List.nodup_append.mp distinct).2.1).1

-- What a step does is not heard by what has been reported or is left.
theorem apart (going : b.Going heard now left) {job : Job}
    (mem : job ∈ b.report.jobs ∨ job ∈ left.flatten) :
    job.position ∉ now.map (·.position) := by
  have distinct := going.distinct
  rw [List.map_append, List.map_append, List.nodup_append, List.nodup_append] at distinct
  obtain ⟨-, ⟨-, -, later⟩, earlier⟩ := distinct
  intro both
  rcases mem with reported | behind
  · exact earlier _ (List.mem_map_of_mem reported) _ (List.mem_append_left _ both) rfl
  · exact later _ both _ (List.mem_map_of_mem behind) rfl

end Going

-- Everything that a step of a batch can be.
inductive Moves (b : Batch) (sight : Sight) : Batch × List Entry → Prop where
  | starts (stage : b.stage = .fresh) :
      Moves b sight ({ b with stage := .between b.steps },
        [.batchStarted b.operations.length b.steps.length])
  | completes (stage : b.stage = .between []) : Moves b sight (b.close b.report [] [])
  | stopped (stage : b.stage = .between (jobs :: left))
      (interrupted : b.context.interruption? sight.moment = some interruption) :
      Moves b sight (b.close { b.report with interrupted := true } (jobs :: left)
        [.batchInterrupted interruption])
  | enters (stage : b.stage = .between (jobs :: left))
      (free : b.context.interruption? sight.moment = none) :
      Moves b sight ({ b with stage := .running (.start jobs) left }, [])
  | fails (stage : b.stage = .running group left) (complete : group.ended = true)
      (stops : b.stops (b.report.enterAll group.results) group.results = true) :
      Moves b sight (b.close (b.report.enterAll group.results) left [])
  | leaves (stage : b.stage = .running group left) (complete : group.ended = true)
      (onward : b.stops (b.report.enterAll group.results) group.results = false) :
      Moves b sight
        ({ b with report := b.report.enterAll group.results, stage := .between left }, [])
  | breaks (stage : b.stage = .running group left) (going : group.ended = false)
      (broken : (group.step b.context b.transaction sight).1.fault? = some fault) :
      Moves b sight ({ b with stage := .broken fault },
        (group.step b.context b.transaction sight).2)
  | turns (stage : b.stage = .running group left) (going : group.ended = false)
      (sound : (group.step b.context b.transaction sight).1.fault? = none) :
      Moves b sight
        ({ b with stage := .running (group.step b.context b.transaction sight).1 left },
          (group.step b.context b.transaction sight).2)
  | rests (ended : b.ended = true) : Moves b sight (b, [])

theorem step_moves (b : Batch) (sight : Sight) : b.Moves sight (b.step sight) := by
  unfold step
  split
  · exact .starts ‹_›
  · exact .completes ‹_›
  · split
    · exact .stopped ‹_› ‹_›
    · exact .enters ‹_› ‹_›
  · split
    · unfold afterStep
      dsimp only
      split
      · exact .fails ‹_› ‹_› ‹_›
      · exact .leaves ‹_› ‹_› (Bool.eq_false_iff.mpr ‹_›)
    · dsimp only
      split
      · exact .breaks ‹_› (Bool.eq_false_iff.mpr ‹_›) ‹_›
      · exact .turns ‹_› (Bool.eq_false_iff.mpr ‹_›) ‹_›
  · rename_i stage
    exact .rests (by rw [ended, stage])
  · rename_i stage
    exact .rests (by rw [ended, stage])

variable {b : Batch} {heard : Nat → List Asked} {left : List (List Job)} {group : Group}

theorem Moves.settings {sight : Sight} {after : Batch × List Entry} (moves : b.Moves sight after) :
    after.1.context = b.context ∧ after.1.transaction = b.transaction ∧
      after.1.options = b.options ∧ after.1.operations = b.operations := by
  cases moves <;> exact ⟨rfl, rfl, rfl, rfl⟩

def members (b : Batch) : List Execution :=
  match b.stage with
  | .running group _ => group.members
  | _ => []

-- The steps that have not been begun.
def pending (b : Batch) : List (List Job) :=
  match b.stage with
  | .fresh => b.steps
  | .between left | .running _ left => left
  | _ => []

theorem members_of_running (stage : b.stage = .running group left) : b.members = group.members := by
  rw [members, stage]

-- A step speaks of nobody but the operations that are at it.
theorem Moves.job_of_entry {sight : Sight} {after : Batch × List Entry}
    (moves : b.Moves sight after) : ∀ entry ∈ after.2, ∀ job, entry.job? = some job →
      job ∈ b.members.map (·.job) := by
  have grouped : ∀ group left, b.stage = .running group left →
      ∀ entry ∈ (group.step b.context b.transaction sight).2, ∀ job, entry.job? = some job →
        job ∈ b.members.map (·.job) := by
    intro group left stage
    rw [members_of_running stage]
    exact Group.job_of_entry
  intro entry mem job about
  cases moves with
  | breaks stage going broken => exact grouped _ _ stage entry mem job about
  | turns stage going sound => exact grouped _ _ stage entry mem job about
  | starts stage =>
    rw [List.mem_singleton.mp mem] at about
    cases about
  | stopped stage interrupted =>
    rcases List.mem_cons.mp mem with rfl | last
    · cases about
    · rw [List.mem_singleton.mp last] at about
      cases about
  | completes stage =>
    rw [List.mem_singleton.mp mem] at about
    cases about
  | fails stage complete =>
    rw [List.mem_singleton.mp mem] at about
    cases about
  | enters | leaves | rests => cases mem

theorem Moves.of_between {sight : Sight} {after : Batch × List Entry}
    (moves : b.Moves sight after) (stage : b.stage = .between left)
    (stopped : b.context.interruption? sight.moment = some interruption) :
    after.1.stage = .finished ∧ after.1.report.skipped = b.report.skipped ++ left.flatten ∧
      after.1.report.failed = b.report.failed := by
  cases moves with
  | completes same =>
    cases stage.symm.trans same
    exact ⟨rfl, rfl, rfl⟩
  | stopped same interrupted =>
    cases stage.symm.trans same
    exact ⟨rfl, rfl, rfl⟩
  | enters same free => cases free.symm.trans stopped
  | rests ended => simp [Batch.ended, stage] at ended
  | _ same => cases stage.symm.trans same

theorem Moves.of_over {sight : Sight} {after : Batch × List Entry} (moves : b.Moves sight after)
    (stage : b.stage = .running group left) (complete : group.ended = true) :
    after.1.stage = .finished ∧
        after.1.report = (b.report.enterAll group.results).skip left.flatten ∨
      after.1.stage = .between left ∧ after.1.report = b.report.enterAll group.results := by
  cases moves with
  | fails same last =>
    cases stage.symm.trans same
    exact .inl ⟨rfl, rfl⟩
  | leaves same last =>
    cases stage.symm.trans same
    exact .inr ⟨rfl, rfl⟩
  | breaks same going broken =>
    cases stage.symm.trans same
    cases going.symm.trans complete
  | turns same going sound =>
    cases stage.symm.trans same
    cases going.symm.trans complete
  | rests ended => simp [Batch.ended, stage] at ended
  | _ same => cases stage.symm.trans same

theorem Stands.of_fresh (stands : b.Stands heard) (stage : b.stage = .fresh) :
    b.Going heard [] b.steps := by
  cases stands with
  | fresh same going => exact going
  | _ same => cases stage.symm.trans same

theorem Stands.of_between (stands : b.Stands heard) (stage : b.stage = .between left) :
    b.Going heard [] left := by
  cases stands with
  | between same going =>
    cases stage.symm.trans same
    exact going
  | _ same => cases stage.symm.trans same

theorem Stands.of_running (stands : b.Stands heard) (stage : b.stage = .running group left) :
    b.Going heard (group.members.map (·.job)) left ∧
      group.Stands b.context.policy b.transaction heard ∧ group.fault? = none := by
  cases stands with
  | running same going standing sound =>
    cases stage.symm.trans same
    exact ⟨going, standing, sound⟩
  | _ same => cases stage.symm.trans same

-- Whoever is at a step is an operation of the batch.
theorem Stands.listed (stands : b.Stands heard) {job : Job} (mem : job ∈ b.members.map (·.job)) :
    job ∈ Job.number b.operations := by
  cases stage : b.stage with
  | running group left =>
    rw [members_of_running stage] at mem
    exact (stands.of_running stage).1.whole.subset
      (List.mem_append_right _ (List.mem_append_left _ mem))
  | _ =>
    rw [members, stage] at mem
    cases mem

theorem Stands.of_finished (stands : b.Stands heard) (stage : b.stage = .finished) :
    b.report.Tells heard ∧ b.report.jobs.Perm (Job.number b.operations) := by
  cases stands with
  | finished same told whole => exact ⟨told, whole⟩
  | _ same => cases stage.symm.trans same

theorem close_stands {steps : List (List Job)} {report : Report} (told : report.Tells heard)
    (whole : (report.jobs ++ steps.flatten).Perm (Job.number b.operations))
    (silent : ∀ job ∈ steps.flatten, heard job.position = []) (before : List Entry) :
    (b.close report steps before).1.Stands heard := by
  refine .finished rfl (told.skip silent) ?_
  show ((report.skip steps.flatten).jobs).Perm _
  rw [Report.jobs_skip]
  exact whole

-- What the operations of a step have come to goes into the report.
theorem Going.conclude (going : b.Going heard (group.members.map (·.job)) left)
    (standing : group.Stands b.context.policy b.transaction heard) (sound : group.fault? = none)
    (complete : group.ended = true) :
    Going { b with report := b.report.enterAll group.results, stage := .between left }
      heard [] left := by
  have entered := Report.jobs_enterAll b.report group.results
  rw [Group.results_jobs complete sound] at entered
  refine ⟨going.told.enterAll standing.fits, ?_, ?_, going.silent⟩
  · refine (entered.append_right _).trans ?_
    rw [List.append_assoc]
    exact going.whole
  · exact (Report.skipped_enterAll ..).trans going.unskipped

theorem Going.turn (going : b.Going heard (group.members.map (·.job)) left) (sight : Sight) :
    Going
      { b with stage := .running (group.step b.context b.transaction sight).1 left }
      (fun position =>
        hearAll position (heard position) (group.step b.context b.transaction sight).2)
      ((group.step b.context b.transaction sight).1.members.map (·.job)) left := by
  have same : ∀ job, job ∈ b.report.jobs ∨ job ∈ left.flatten →
      hearAll job.position (heard job.position) (group.step b.context b.transaction sight).2 =
        heard job.position := by
    intro job mem
    apply Group.hear_step_of_absent
    have apart := going.apart mem
    rwa [List.map_map] at apart
  refine ⟨going.told.hear fun job mem => same job (.inl mem), ?_, going.unskipped, ?_⟩
  · rw [Group.jobs_step]
    exact going.whole
  · intro job mem
    rw [same job (.inr mem)]
    exact going.silent job mem

theorem Moves.stands {after : Batch × List Entry} (moves : b.Moves sight after)
    (stands : b.Stands heard) :
    after.1.Stands fun position => hearAll position (heard position) after.2 := by
  cases moves with
  | starts stage =>
    have going := stands.of_fresh stage
    exact .between rfl ⟨going.told, going.whole, going.unskipped, going.silent⟩
  | completes stage =>
    have going := stands.of_between stage
    exact close_stands going.told going.whole going.silent []
  | stopped stage interrupted =>
    have going := stands.of_between stage
    have told : Report.Tells heard { b.report with interrupted := true } :=
      ⟨going.told.applied, going.told.failed, going.told.skipped⟩
    exact close_stands told going.whole going.silent _
  | @enters jobs left stage free =>
    obtain ⟨told, whole, unskipped, silent⟩ := stands.of_between stage
    rw [List.flatten_cons] at whole silent
    have going : Going { b with stage := .running (.start jobs) left } heard jobs left :=
      ⟨told, whole, unskipped, fun job mem => silent job (List.mem_append_right _ mem)⟩
    refine .running rfl ?_ ?_ (Group.start_sound jobs)
    · rw [Group.jobs_start]
      exact going
    · exact Group.start_stands _ _ going.distinct_now
        fun job mem => silent job (List.mem_append_left _ mem)
  | fails stage complete =>
    obtain ⟨going, standing, sound⟩ := stands.of_running stage
    have last := going.conclude standing sound complete
    exact close_stands last.told last.whole last.silent []
  | leaves stage complete =>
    obtain ⟨going, standing, sound⟩ := stands.of_running stage
    exact .between rfl (going.conclude standing sound complete)
  | breaks stage going broken => exact .broken rfl
  | turns stage going sound =>
    obtain ⟨going, standing, -⟩ := stands.of_running stage
    exact .running rfl (going.turn sight) (standing.step sight) sound
  | rests ended => exact stands

theorem Stands.step (stands : b.Stands heard) (sight : Sight) :
    (b.step sight).1.Stands fun position => hearAll position (heard position) (b.step sight).2 :=
  (step_moves b sight).stands stands

end Batch
end Reconcile
