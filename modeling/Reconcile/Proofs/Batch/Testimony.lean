import Reconcile.Proofs.Batch.Accounting
import Reconcile.Proofs.Submission.Prepare

namespace Reconcile

theorem Failure.eq_context {failure : Failure} (why : failure.category = .context) :
    ∃ i, failure = .context i := by
  cases failure with
  | context i => exact ⟨i, rfl⟩
  | _ => cases why

-- What has become of somebody whom nothing has interrupted.
def Verdict.Own (v : Verdict) : Prop := ∀ i, v.2 ≠ .error (.context i)

-- The report of a batch that has come to its end says what was told on the way.
namespace Accounts

variable {steps : List (List Job)} {options : BatchOptions} {report : Report}
  {told : List Verdict} {checked : List (List Job) → Prop} {k : Nat}
  {results : List (List Verdict)} {job : Job}

theorem mem_applied (accounts : Accounts steps options report told checked k results) :
    job ∈ report.applied ↔ (job, .ok ()) ∈ told := by
  rw [accounts.applied, accounts.executed.mem_iff, List.mem_filterMap]
  constructor
  · rintro ⟨⟨other, result⟩, mem, same⟩
    cases result with
    | ok done =>
      cases same
      exact mem
    | error failure => cases same
  · exact fun mem => ⟨_, mem, rfl⟩

theorem mem_failed (accounts : Accounts steps options report told checked k results)
    {failure : Failure} : ⟨job, failure⟩ ∈ report.failed ↔ (job, .error failure) ∈ told := by
  rw [accounts.failed, accounts.executed.mem_iff, List.mem_filterMap]
  constructor
  · rintro ⟨⟨other, result⟩, mem, same⟩
    cases result with
    | ok done => cases same
    | error reason =>
      cases same
      exact mem
  · exact fun mem => ⟨_, mem, rfl⟩

-- A batch goes through all its steps if it goes on after failures and nothing interrupts it.
theorem uncut (accounts : Accounts steps options report told checked k results)
    (onward : options.continueOnError = true) (own : ∀ v ∈ told, v.Own)
    (free : ∀ left, ¬checked left) : report.skipped = [] ∧ report.interrupted = false := by
  have untouched : ∀ step ∈ results, ¬Interrupts step := by
    rintro step mem ⟨v, inside, failure, same, why⟩
    have listed : v ∈ told :=
      accounts.executed.mem_iff.mpr (List.mem_flatten.mpr ⟨step, mem, inside⟩)
    obtain ⟨i, rfl⟩ := Failure.eq_context why
    exact own v listed i same
  have every : k = steps.length := by
    refine Nat.le_antisymm accounts.within (Nat.le_of_not_lt fun fewer => ?_)
    rcases accounts.stopped fewer with halted | ⟨last, mem, interrupted | ⟨stops, -⟩⟩
    · exact free _ halted
    · exact untouched last (List.mem_of_getLast? mem) interrupted
    · exact Bool.false_ne_true (stops.symm.trans onward)
  constructor
  · rw [accounts.skipped, every, List.drop_length]
    rfl
  · refine Bool.eq_false_iff.mpr fun interrupted => ?_
    rcases accounts.interrupted.mp interrupted with ⟨left, halted⟩ | ⟨f, failed, why⟩
    · exact free left halted
    · obtain ⟨i, same⟩ := Failure.eq_context why
      exact own _ (accounts.mem_failed.mp failed) i (congrArg Except.error same)

end Accounts

namespace Batch

-- Each operation of a batch has come as far as the calls made for it say, and what is told of it is
-- its end and nothing else.
def Vouched (b : Batch) (heard : Nat → List Asked) (told : List Verdict) : Prop :=
  ∀ job ∈ Job.number b.operations, ∃ phase,
    Standing b.context.policy b.transaction job.operation (heard job.position) phase ∧
      ∀ result, phase = .finished result ↔ (job, result) ∈ told

theorem start_vouched (context : Context) (transaction : Option TransactionId)
    (options : BatchOptions) (schedule : Schedule) :
    (start context transaction options schedule).Vouched (fun _ => []) [] :=
  fun _ _ => ⟨.fresh, .fresh, fun _ => ⟨nofun, fun absent => (List.not_mem_nil absent).elim⟩⟩

variable {b : Batch} {heard : Nat → List Asked} {told : List Verdict}
  {checked : List (List Job) → Prop} {group : Group} {left : List (List Job)}

-- Nothing was told of the members of a running step before it began.
theorem untold_of_now {results : List (List Verdict)} {now : List Job} {job : Job}
    (counted : b.Counted results (now :: left)) (going : b.Going heard now left)
    (mem : job ∈ now) (result : Except Failure Unit) : (job, result) ∉ results.flatten := by
  intro earlier
  have reported : job ∈ b.report.jobs := by
    rw [counted.report, (Report.jobs_enterAll _ _).mem_iff]
    exact List.mem_append_right _ (List.mem_map_of_mem earlier)
  exact going.apart (.inl reported) (List.mem_map_of_mem mem)

-- Operations are known by their positions, so nobody else is heard at the position of a member.
theorem Going.position_of_other {now : List Job} {job : Job} (going : b.Going heard now left)
    (mem : job ∈ Job.number b.operations) (other : job ∉ now) :
    job.position ∉ now.map (·.position) := by
  intro same
  obtain ⟨member, own, same⟩ := List.mem_map.mp same
  have listed : member ∈ Job.number b.operations :=
    going.whole.subset (List.mem_append_right _ (List.mem_append_left _ own))
  have one := List.inj_on_of_nodup_map (Job.nodup_position_number b.operations) listed mem same
  exact other (one ▸ own)

theorem vouched_turn (stage : b.stage = .running group left) (stands : b.Stands heard)
    (accounted : b.Accounted told checked) (vouched : b.Vouched heard told) (sight : Sight) :
    b.Vouched (fun position => hearAll position (heard position)
        (group.step b.context b.transaction sight).2)
      (told ++ verdicts (group.step b.context b.transaction sight).2) := by
  obtain ⟨going, standing, -⟩ := stands.of_running stage
  obtain ⟨results, counted, -, executed, -⟩ := accounted.of_running stage
  have next := standing.step sight
  have jobs := @Group.jobs_step b.context b.transaction sight group
  have ended := @Group.results_step b.context b.transaction sight group
  have news : (told ++ verdicts (group.step b.context b.transaction sight).2).Perm
      (results.flatten ++ (group.step b.context b.transaction sight).1.results) := by
    refine (executed.append_right _).trans ?_
    rw [List.append_assoc]
    exact ended.symm.append_left _
  intro job mem
  by_cases own : job ∈ group.members.map (·.job)
  · have unreported := untold_of_now counted going own
    rw [← jobs] at own
    obtain ⟨e, member, rfl⟩ := List.mem_map.mp own
    refine ⟨e.phase, next.standing e member, fun result => ?_⟩
    rw [news.mem_iff, List.mem_append, or_iff_right (unreported result),
      Group.result_of_mem next.distinct member]
  · have silent : ∀ result, (job, result) ∉
        verdicts (group.step b.context b.transaction sight).2 := by
      intro result mem
      obtain ⟨e, member, same, -⟩ :=
        Group.mem_results.mp (ended.symm.subset (List.mem_append_right _ mem))
      rw [← jobs] at own
      exact own (same ▸ List.mem_map_of_mem member)
    have unheard := going.position_of_other mem own
    rw [List.map_map] at unheard
    obtain ⟨phase, standing, tells⟩ := vouched job mem
    refine ⟨phase, ?_, fun result => ?_⟩
    · simp only [Group.hear_step_of_absent unheard]
      exact standing
    · rw [tells, List.mem_append, or_iff_left (silent result)]

-- Between two turns a batch tells neither of calls nor of the end of an operation.
theorem Vouched.quiet {after : Batch} {entries : List Entry} (vouched : b.Vouched heard told)
    (settings : after.context = b.context ∧ after.transaction = b.transaction ∧
      after.options = b.options ∧ after.operations = b.operations)
    (unpolled : ∀ position calls, hearAll position calls entries = calls)
    (untold : verdicts entries = []) :
    after.Vouched (fun position => hearAll position (heard position) entries)
      (told ++ verdicts entries) := by
  obtain ⟨context, transaction, -, operations⟩ := settings
  simp only [Vouched, context, transaction, operations, unpolled, untold, List.append_nil]
  exact vouched

theorem Moves.vouched {sight : Sight} {after : Batch × List Entry} (moves : b.Moves sight after)
    (stands : b.Stands heard) (accounted : b.Accounted told checked)
    (vouched : b.Vouched heard told) :
    after.1.Vouched (fun position => hearAll position (heard position) after.2)
      (told ++ verdicts after.2) := by
  have settings := moves.settings
  cases moves with
  | breaks stage going broken => exact vouched_turn stage stands accounted vouched sight
  | turns stage going sound => exact vouched_turn stage stands accounted vouched sight
  | starts | completes | stopped | enters | fails | leaves | rests =>
    exact vouched.quiet settings (fun _ _ => rfl) rfl

theorem Vouched.step (vouched : b.Vouched heard told) (stands : b.Stands heard)
    (accounted : b.Accounted told checked) (sight : Sight) :
    (b.step sight).1.Vouched (fun position => hearAll position (heard position) (b.step sight).2)
      (told ++ verdicts (b.step sight).2) :=
  (step_moves b sight).vouched stands accounted vouched

end Batch

def Sight.Free (sight : Sight) : Prop := ∀ i, sight.progress ≠ .ready (.error i)

variable {context : Context} {transaction : Option TransactionId} {heard : Nat → List Asked}

namespace Execution

theorem phase_of_verdict? {e : Execution} {v : Verdict} (told : e.verdict? = some v) :
    e.phase = .finished v.2 := by
  unfold verdict? at told
  split at told
  · cases told
    assumption
  · cases told

theorem turn_of_unfit {e : Execution} {sight : Sight} (fresh : e.phase = .fresh)
    (unfit : e.job.operation.prepare transaction.isSome = .error reason) :
    (e.turn context transaction sight).phase = .finished (.error reason) := by
  simp only [turn, fresh, begin, unfit, finish]

-- Only whoever is interrupted tells of an interruption.
theorem own_of_turn {e : Execution} {sight : Sight}
    (standing : Standing context.policy transaction e.job.operation calls e.phase)
    (free : sight.Free) : ∀ v ∈ verdicts (e.turn context transaction sight).entries, v.Own := by
  intro v mem i same
  cases going : e.ended with
  | true =>
    rw [turn_ended going] at mem
    cases mem
  | false =>
    rw [turn_told context transaction sight going] at mem
    have ended := phase_of_verdict? (Option.mem_toList.mp mem)
    rw [same] at ended
    have unended (result : Except Failure Unit) : e.phase ≠ .finished result := by
      intro complete
      rw [Execution.ended, complete] at going
      cases going
    cases prepared : e.job.operation.prepare transaction.isSome with
    | ok mutation => exact free i (interrupted_of_turn prepared (unended _) ended).2
    | error reason =>
      rcases standing.unfit prepared with fresh | complete
      · have refused : (e.turn context transaction sight).phase = .finished (.error reason) :=
          turn_of_unfit fresh prepared
        cases refused.symm.trans ended
        cases Operation.isLocal_of_prepare prepared
      · exact unended _ complete

end Execution

theorem Group.Stands.own {g : Group} {sight : Sight}
    (stands : g.Stands context.policy transaction heard) (free : sight.Free) :
    ∀ v ∈ verdicts (g.step context transaction sight).2, v.Own := by
  cases next : g.ahead with
  | nil =>
    rw [step_of_nil next]
    exact fun _ absent => (List.not_mem_nil absent).elim
  | cons e rest =>
    rw [entries_step next]
    exact Execution.own_of_turn
      (stands.standing e ((mem_members_of_ahead next).mpr (.inl rfl))) free

theorem Batch.Moves.own {b : Batch} {sight : Sight} {after : Batch × List Entry}
    (moves : b.Moves sight after) (stands : b.Stands heard) (free : sight.Free) :
    ∀ v ∈ verdicts after.2, v.Own := by
  cases moves with
  | breaks stage => exact (stands.of_running stage).2.1.own free
  | turns stage => exact (stands.of_running stage).2.1.own free
  | starts | completes | stopped | enters | fails | leaves | rests =>
    exact fun _ absent => (List.not_mem_nil absent).elim

end Reconcile
