import Reconcile.Proofs.Batch.Interruption
import Reconcile.Proofs.Batch.Stages

namespace Reconcile

-- What has become of an operation that was carried out.
abbrev Verdict := Job × Except Failure Unit

namespace Verdict

def applied? : Verdict → Option Job
  | (job, .ok _) => some job
  | (_, .error _) => none

def failed? : Verdict → Option FailedJob
  | (_, .ok _) => none
  | (job, .error failure) => some ⟨job, failure⟩

end Verdict

-- Whoever is carried out tells in the end what has become of it.
def Entry.verdict? : Entry → Option Verdict
  | .finished job _ result => some (job, result)
  | _ => none

def verdicts (entries : List Entry) : List Verdict := entries.filterMap Entry.verdict?

-- A step in which something failed, and one in which something was stopped from outside.
def Fails (step : List Verdict) : Prop := ∃ verdict ∈ step, ∃ failure, verdict.2 = .error failure

def Interrupts (step : List Verdict) : Prop :=
  ∃ verdict ∈ step, ∃ failure, verdict.2 = .error failure ∧ failure.category = .context

theorem interrupts_iff {step : List Verdict} :
    (∃ f ∈ step.filterMap Verdict.failed?, f.failure.category = .context) ↔ Interrupts step := by
  constructor
  · rintro ⟨f, mem, why⟩
    obtain ⟨⟨job, result⟩, found, same⟩ := List.mem_filterMap.mp mem
    cases result with
    | ok done => cases same
    | error failure =>
      cases same
      exact ⟨_, found, failure, rfl, why⟩
  · rintro ⟨⟨job, result⟩, found, failure, same, why⟩
    cases same
    exact ⟨⟨job, failure⟩, List.mem_filterMap.mpr ⟨_, found, rfl⟩, why⟩

-- A step that a batch does not go on from.
def BatchOptions.Stops (options : BatchOptions) (step : List Verdict) : Prop :=
  Interrupts step ∨ options.continueOnError = false ∧ Fails step

theorem verdicts_append (earlier later : List Entry) :
    verdicts (earlier ++ later) = verdicts earlier ++ verdicts later := List.filterMap_append ..

namespace Execution

def verdict? (e : Execution) : Option Verdict :=
  match e.phase with
  | .finished result => some (e.job, result)
  | _ => none

-- An operation tells what has become of it at the step at which it ends, and only then.
def Told (job : Job) (turn : Turn) : Prop :=
  verdicts turn.entries = (verdict? ⟨job, turn.phase⟩).toList

theorem finish_told (job : Job) (staged : Bool) (result : Except Failure Unit)
    {before : List Entry} (quiet : verdicts before = []) :
    Told job (finish job staged result before) := by
  rw [Told, finish, verdicts_append, quiet]
  rfl

theorem begin_told (job : Job) (transaction : Option TransactionId) :
    Told job (begin job transaction) := by
  unfold begin
  split
  · exact finish_told _ _ _ rfl
  · rfl
  · rfl

theorem afterRead_told (job : Job) (mutation : Mutation) (attempts polls : Nat) (reply : Reply) :
    Told job (afterRead job mutation attempts (.polled job .readVersion polls (some reply))
      reply) := by
  unfold afterRead
  split
  · exact finish_told _ _ _ rfl
  · split <;> rfl

theorem afterConflict_told (job : Job) (policy : Policy) (sight : Sight) (request : Request)
    (version attempts polls : Nat) (reply : Reply) :
    Told job (afterConflict job policy sight request version attempts
      (.polled job (.submit request) polls (some reply))) := by
  unfold afterConflict
  dsimp only
  split
  · exact finish_told _ _ _ rfl
  · split <;> rfl

theorem afterSubmit_told (job : Job) (policy : Policy) (sight : Sight) (request : Request)
    (attempts polls : Nat) (reply : Reply) :
    Told job (afterSubmit job policy sight request attempts
      (.polled job (.submit request) polls (some reply)) reply) := by
  unfold afterSubmit
  split
  · exact finish_told _ _ _ rfl
  · split
    · exact finish_told _ _ _ rfl
    · split
      · exact finish_told _ _ _ (by split <;> rfl)
      · split
        · exact afterConflict_told ..
        · exact finish_told _ _ _ rfl

theorem turn_told (context : Context) (transaction : Option TransactionId) (sight : Sight)
    {e : Execution} (going : e.ended = false) :
    Told e.job (e.turn context transaction sight) := by
  obtain ⟨job, phase⟩ := e
  cases phase with
  | fresh => exact begin_told ..
  | reading mutation attempts polls =>
    unfold turn
    dsimp only
    split
    · rfl
    · exact finish_told _ _ _ rfl
    · exact afterRead_told ..
  | submitting request attempts polls =>
    unfold turn
    dsimp only
    split
    · rfl
    · exact finish_told _ _ _ rfl
    · exact afterSubmit_told ..
  | pausing mutation attempts due polls =>
    unfold turn
    dsimp only
    split
    · rfl
    · exact finish_told _ _ _ rfl
    · rfl
  | finished result => cases going
  | broken fault => cases going

end Execution

namespace Group

variable {context : Context} {transaction : Option TransactionId} {sight : Sight} {g : Group}

theorem results_eq (g : Group) : g.results = g.members.filterMap Execution.verdict? := rfl

theorem results_start (jobs : List Job) : (start jobs).results = [] := by
  rw [results_eq, members_start, List.filterMap_map, List.filterMap_eq_nil_iff]
  exact fun _ _ => rfl

-- What the members of a step have told is what has become of them.
theorem results_step : (g.step context transaction sight).1.results.Perm
    (g.results ++ verdicts (g.step context transaction sight).2) := by
  have cons : ∀ (e : Execution) (rest : List Execution), (e :: rest).filterMap Execution.verdict? =
      e.verdict?.toList ++ rest.filterMap Execution.verdict? := by
    intro e rest
    rw [List.filterMap_cons]
    cases e.verdict? <;> rfl
  cases next : g.ahead with
  | nil =>
    rw [results_eq, results_eq, members_step_of_nil next, step_of_nil next]
    simp [verdicts]
  | cons e rest =>
    rw [results_eq, results_eq, members_step next, members_of_ahead next, entries_step next,
      List.filterMap_append, List.filterMap_append, cons, cons]
    cases going : e.ended with
    | true =>
      rw [Execution.turn_ended going]
      simp [verdicts]
    | false =>
      have silent : e.verdict? = none := by
        obtain ⟨job, phase⟩ := e
        cases phase with
        | finished result => cases going
        | _ => rfl
      rw [Execution.turn_told context transaction sight going, silent, List.append_assoc]
      exact List.perm_append_comm.append_left _

end Group

namespace Report

variable {r : Report}

theorem enterAll_append (r : Report) (earlier later : List Verdict) :
    r.enterAll (earlier ++ later) = (r.enterAll earlier).enterAll later := List.foldl_append ..

-- What a report says once results have been entered.
theorem enterAll_eq (r : Report) (results : List Verdict) :
    (r.enterAll results).staged = r.staged ∧
      (r.enterAll results).applied = r.applied ++ results.filterMap Verdict.applied? ∧
      (r.enterAll results).failed = r.failed ++ results.filterMap Verdict.failed? ∧
      ((r.enterAll results).interrupted = true ↔ r.interrupted = true ∨ Interrupts results) := by
  induction results generalizing r with
  | nil => simp [enterAll, Interrupts]
  | cons first rest ih =>
    obtain ⟨job, result⟩ := first
    obtain ⟨staged, applied, failed, interrupted⟩ := ih (r.enter job result)
    rw [enterAll_cons]
    refine ⟨?_, ?_, ?_, ?_⟩
    · rw [staged]
      cases result <;> rfl
    · rw [applied]
      cases result with
      | ok done => simp [enter, Verdict.applied?]
      | error failure =>
        rw [List.filterMap_cons_none rfl]
        rfl
    · rw [failed]
      cases result with
      | ok done =>
        rw [List.filterMap_cons_none rfl]
        rfl
      | error failure => simp [enter, Verdict.failed?]
    · rw [interrupted]
      cases result with
      | ok done => simp [enter, Interrupts]
      | error failure => simp [enter, Interrupts, or_assoc]

end Report

-- What a report says of a batch carried out in steps. `told` is what has become of operations, and
-- `checked` holds of the steps that were left when the context stopped the batch between two steps.
structure Accounts (steps : List (List Job)) (options : BatchOptions) (report : Report)
    (told : List Verdict) (checked : List (List Job) → Prop) (k : Nat)
    (results : List (List Verdict)) : Prop where
  within : k ≤ steps.length
  carried : results.map (·.map (·.1)) = steps.take k
  executed : told.Perm results.flatten
  applied : report.applied = results.flatten.filterMap Verdict.applied?
  failed : report.failed = results.flatten.filterMap Verdict.failed?
  skipped : report.skipped = (steps.drop k).flatten
  stopped : k < steps.length →
    checked (steps.drop k) ∨ ∃ last ∈ results.getLast?, options.Stops last
  onward : ∀ step ∈ results.dropLast, ¬options.Stops step
  interrupted : report.interrupted = true ↔
    (∃ left, checked left) ∨ ∃ f ∈ report.failed, f.failure.category = .context

namespace Batch

-- Between two steps the context is looked at and stops the batch.
def Halts (b : Batch) (now : Moment) (left : List (List Job)) : Prop :=
  b.stage = .between left ∧ left ≠ [] ∧
    ∃ interruption, b.context.interruption? now = some interruption

-- A batch that has not come to its end, some of its steps behind it and some ahead.
structure Counted (b : Batch) (results : List (List Verdict)) (left : List (List Job)) : Prop where
  steps : b.steps = results.map (·.map (·.1)) ++ left
  report : b.report = (Report.empty b.transaction.isSome).enterAll results.flatten
  onward : ∀ step ∈ results, ¬b.options.Stops step

inductive Accounted (b : Batch) (told : List Verdict) (checked : List (List Job) → Prop) :
    Prop where
  | fresh (stage : b.stage = .fresh) (counted : b.Counted [] b.steps) (quiet : told = [])
      (free : ∀ left, ¬checked left)
  | between (stage : b.stage = .between left) (counted : b.Counted results left)
      (executed : told.Perm results.flatten) (free : ∀ left, ¬checked left)
  | running (stage : b.stage = .running group left)
      (counted : b.Counted results (group.members.map (·.job) :: left))
      (sound : group.fault? = none) (executed : told.Perm (results.flatten ++ group.results))
      (free : ∀ left, ¬checked left)
  | finished (stage : b.stage = .finished) (staged : b.report.staged = b.transaction.isSome)
      (accounts : Accounts b.steps b.options b.report told checked k results)
  | broken (stage : b.stage = .broken fault)

theorem start_accounted (context : Context) (transaction : Option TransactionId)
    (options : BatchOptions) (schedule : Schedule) :
    (start context transaction options schedule).Accounted [] fun _ => False :=
  .fresh rfl ⟨rfl, rfl, nofun⟩ rfl fun _ => id

variable {b : Batch} {results : List (List Verdict)} {left : List (List Job)} {group : Group}

-- Nothing has stopped a batch that is still going.
theorem Counted.uninterrupted (counted : b.Counted results left) : ¬Interrupts results.flatten := by
  rintro ⟨verdict, mem, why⟩
  obtain ⟨step, found, own⟩ := List.mem_flatten.mp mem
  exact counted.onward step found (.inl ⟨verdict, own, why⟩)

theorem Counted.stops_iff (counted : b.Counted results left) (step : List Verdict) :
    b.stops (b.report.enterAll step) step = true ↔ b.options.Stops step := by
  have interrupted : (b.report.enterAll step).interrupted = true ↔ Interrupts step := by
    rw [(Report.enterAll_eq _ _).2.2.2, counted.report, (Report.enterAll_eq _ _).2.2.2]
    simp [Report.empty, counted.uninterrupted]
  rw [stops, Bool.or_eq_true, interrupted, Bool.and_eq_true, List.any_eq_true]
  refine or_congr_right (and_congr (by simp) ?_)
  refine exists_congr fun ⟨job, result⟩ => and_congr_right fun _ => ?_
  cases result <;> simp

-- A batch that comes to its end accounts for the steps behind it and skips those ahead.
theorem close_accounted {report : Report} {told : List Verdict}
    {checked : List (List Job) → Prop} (before : List Entry)
    (whole : b.steps = results.map (·.map (·.1)) ++ left) (executed : told.Perm results.flatten)
    (entered : report = { (Report.empty b.transaction.isSome).enterAll results.flatten with
      interrupted := report.interrupted })
    (stopped : left ≠ [] → checked left ∨ ∃ last ∈ results.getLast?, b.options.Stops last)
    (onward : ∀ step ∈ results.dropLast, ¬b.options.Stops step)
    (interrupted : report.interrupted = true ↔
      (∃ left, checked left) ∨ Interrupts results.flatten) :
    (b.close report left before).1.Accounted told checked := by
  obtain ⟨staged, applied, failed, -⟩ :=
    Report.enterAll_eq (Report.empty b.transaction.isSome) results.flatten
  have length : (results.map (·.map (·.1))).length = results.length := List.length_map ..
  have ahead : b.steps.drop results.length = left := by rw [whole, ← length, List.drop_left]
  have told_failed : (report.skip left.flatten).failed =
      results.flatten.filterMap Verdict.failed? := by
    rw [entered]
    exact failed
  refine .finished rfl ?_
    (k := results.length) ⟨?_, ?_, executed, ?_, told_failed, ?_, ?_, onward, ?_⟩
  · rw [close, entered]
    exact staged
  · show results.length ≤ b.steps.length
    rw [whole, List.length_append, length]
    exact Nat.le_add_right ..
  · show _ = b.steps.take results.length
    rw [whole, ← length, List.take_left]
  · rw [close, entered]
    exact applied
  · show report.skipped ++ left.flatten = (b.steps.drop results.length).flatten
    rw [ahead, entered]
    exact congrArg (· ++ left.flatten) (Report.skipped_enterAll _ _)
  · intro more
    show checked (b.steps.drop results.length) ∨ _
    rw [ahead]
    apply stopped
    rintro rfl
    change results.length < b.steps.length at more
    rw [whole, List.append_nil, length] at more
    exact Nat.lt_irrefl _ more
  · rw [close, told_failed, interrupts_iff]
    exact interrupted

theorem not_halts {now : Moment} (other : ∀ left, b.stage ≠ .between left)
    (left : List (List Job)) : ¬b.Halts now left := fun halts => other left halts.1

-- A step of a group belongs to the results of its batch once the group is over.
theorem Counted.conclude (counted : b.Counted results (group.members.map (·.job) :: left))
    (sound : group.fault? = none) (complete : group.ended = true) :
    b.steps = (results ++ [group.results]).map (·.map (·.1)) ++ left ∧
      b.report.enterAll group.results =
        (Report.empty b.transaction.isSome).enterAll (results ++ [group.results]).flatten := by
  constructor
  · rw [counted.steps, List.map_append, List.append_assoc, List.map_singleton,
      Group.results_jobs complete sound]
    rfl
  · rw [counted.report, List.flatten_append, Report.enterAll_append, List.flatten_singleton]

theorem ended_between (ended : b.ended = true) (left : List (List Job)) :
    b.stage ≠ .between left := by
  intro stage
  simp [Batch.ended, stage] at ended

variable {told : List Verdict} {checked : List (List Job) → Prop}

theorem Accounted.of_fresh (accounted : b.Accounted told checked) (stage : b.stage = .fresh) :
    b.Counted [] b.steps ∧ told = [] ∧ ∀ left, ¬checked left := by
  cases accounted with
  | fresh _ counted quiet free => exact ⟨counted, quiet, free⟩
  | _ same => cases stage.symm.trans same

theorem Accounted.of_between (accounted : b.Accounted told checked)
    (stage : b.stage = .between left) : ∃ results, b.Counted results left ∧
      told.Perm results.flatten ∧ ∀ left, ¬checked left := by
  cases accounted with
  | between same counted executed free =>
    cases stage.symm.trans same
    exact ⟨_, counted, executed, free⟩
  | _ same => cases stage.symm.trans same

theorem Accounted.of_running (accounted : b.Accounted told checked)
    (stage : b.stage = .running group left) :
    ∃ results, b.Counted results (group.members.map (·.job) :: left) ∧ group.fault? = none ∧
      told.Perm (results.flatten ++ group.results) ∧ ∀ left, ¬checked left := by
  cases accounted with
  | running same counted sound executed free =>
    cases stage.symm.trans same
    exact ⟨_, counted, sound, executed, free⟩
  | _ same => cases stage.symm.trans same

theorem Accounted.of_finished (accounted : b.Accounted told checked)
    (stage : b.stage = .finished) : b.report.staged = b.transaction.isSome ∧
      ∃ k results, Accounts b.steps b.options b.report told checked k results := by
  cases accounted with
  | finished _ staged accounts => exact ⟨staged, _, _, accounts⟩
  | _ same => cases stage.symm.trans same

-- What one step does to the account: it tells of those that have ended in it, and it looks at the
-- context if it is made between two steps of the batch.
theorem Moves.accounted {sight : Sight} {after : Batch × List Entry} (moves : b.Moves sight after)
    (accounted : b.Accounted told checked) :
    after.1.Accounted (told ++ verdicts after.2)
      fun left => checked left ∨ b.Halts sight.moment left := by
  have unmoved : told ++ verdicts [] = told := List.append_nil told
  have free (given : ∀ left, ¬checked left) (here : ∀ left, ¬b.Halts sight.moment left) :
      ∀ left, ¬(checked left ∨ b.Halts sight.moment left) :=
    fun left either => either.elim (given left) (here left)
  cases moves with
  | starts stage =>
    obtain ⟨counted, quiet, given⟩ := accounted.of_fresh stage
    subst quiet
    refine .between rfl ⟨counted.steps, counted.report, counted.onward⟩ .rfl
      (free given (not_halts ?_))
    exact fun left same => by cases stage.symm.trans same
  | completes stage =>
    obtain ⟨results, counted, executed, given⟩ := accounted.of_between stage
    have unchecked := free given fun left ⟨same, more, _⟩ =>
      more (by cases stage.symm.trans same; rfl)
    refine close_accounted [] counted.steps (unmoved.symm ▸ executed) ?_ nofun ?_ ?_
    · rw [counted.report]
    · exact fun step mem => counted.onward step (List.dropLast_subset _ mem)
    · rw [counted.report, (Report.enterAll_eq _ _).2.2.2]
      simp [Report.empty, unchecked, counted.uninterrupted]
  | stopped stage interrupted =>
    obtain ⟨results, counted, executed, -⟩ := accounted.of_between stage
    have halts : b.Halts sight.moment _ := ⟨stage, nofun, _, interrupted⟩
    refine close_accounted _ counted.steps (unmoved.symm ▸ executed) ?_ ?_ ?_ ?_
    · rw [counted.report]
    · exact fun _ => .inl (.inr halts)
    · exact fun step mem => counted.onward step (List.dropLast_subset _ mem)
    · exact iff_of_true rfl (.inl ⟨_, .inr halts⟩)
  | @enters jobs left stage unstopped =>
    obtain ⟨results, counted, executed, given⟩ := accounted.of_between stage
    refine .running rfl ⟨?_, counted.report, counted.onward⟩ (Group.start_sound jobs) ?_
      (free given ?_)
    · rw [Group.jobs_start]
      exact counted.steps
    · rw [Group.results_start, List.append_nil]
      exact unmoved.symm ▸ executed
    · rintro left ⟨-, -, interruption, found⟩
      cases unstopped.symm.trans found
  | @fails group left stage complete stops =>
    obtain ⟨results, counted, sound, executed, given⟩ := accounted.of_running stage
    obtain ⟨steps, report⟩ := counted.conclude sound complete
    have unchecked := free given (not_halts fun left same => by cases stage.symm.trans same)
    refine close_accounted [] steps ?_ ?_ ?_ ?_ ?_
    · rw [List.flatten_append, List.flatten_singleton]
      exact unmoved.symm ▸ executed
    · rw [report]
    · exact fun _ => .inr ⟨_, List.getLast?_concat .., (counted.stops_iff _).mp stops⟩
    · rw [List.dropLast_concat]
      exact counted.onward
    · rw [report, (Report.enterAll_eq _ _).2.2.2]
      simp [Report.empty, unchecked]
  | @leaves group left stage complete onward =>
    obtain ⟨results, counted, sound, executed, given⟩ := accounted.of_running stage
    obtain ⟨steps, report⟩ := counted.conclude sound complete
    refine .between rfl ⟨steps, report, ?_⟩ ?_ (free given (not_halts ?_))
    · intro step mem
      rcases List.mem_append.mp mem with before | last
      · exact counted.onward step before
      · rw [List.mem_singleton.mp last, ← counted.stops_iff, onward]
        exact Bool.false_ne_true
    · rw [List.flatten_append, List.flatten_singleton]
      exact unmoved.symm ▸ executed
    · exact fun left same => by cases stage.symm.trans same
  | breaks => exact .broken rfl
  | @turns group left stage going sound =>
    obtain ⟨results, counted, -, executed, given⟩ := accounted.of_running stage
    refine .running rfl ⟨?_, counted.report, counted.onward⟩ sound ?_ (free given (not_halts ?_))
    · rw [Group.jobs_step]
      exact counted.steps
    · refine (executed.append_right _).trans ?_
      rw [List.append_assoc]
      exact Group.results_step.symm.append_left _
    · exact fun left same => by cases stage.symm.trans same
  | rests ended =>
    have same : (fun left => checked left ∨ b.Halts sight.moment left) = checked :=
      funext fun left => propext (or_iff_left (not_halts (ended_between ended) left))
    rw [same, unmoved]
    exact accounted

theorem Accounted.step (accounted : b.Accounted told checked) (sight : Sight) :
    (b.step sight).1.Accounted (told ++ verdicts (b.step sight).2)
      fun left => checked left ∨ b.Halts sight.moment left :=
  (step_moves b sight).accounted accounted

end Batch
end Reconcile
