import Reconcile.Proofs.Batch.Lineup
import Reconcile.Proofs.Schedule.Concurrency
import Reconcile.Proofs.World.Testimony

namespace Reconcile

-- An order in which all jobs of a batch come. They come step by step, inside a transaction in the
-- order of the operations at each step; if steps hold one job each, that is the order of the batch,
-- and otherwise whoever comes before a job that stands ahead is of the same run and leaves all others
-- of the run alone.
structure Steps.Arranges (concurrent staged : Bool) (jobs order : List Job) : Prop where
  every : order.Perm jobs
  steps : ∃ turns, order = turns.flatten ∧ List.Forall₂ List.Perm turns (plan concurrent jobs)
  queued : staged = true → order = (plan concurrent jobs).flatten
  plain : concurrent = false → order = jobs
  passes : order.Pairwise fun second first =>
    first.position < second.position → Overtakes jobs second first

theorem Steps.arranges_of_inTurn {concurrent staged : Bool} {jobs order : List Job}
    (ascending : jobs.Pairwise (·.position < ·.position))
    (inTurn : InTurn order (plan concurrent jobs))
    (inLine : staged = true → order.Sublist (plan concurrent jobs).flatten) (distinct : order.Nodup)
    (all : ∀ job ∈ jobs, job ∈ order) : Arranges concurrent staged jobs order := by
  have whole := flatten_plan_perm concurrent jobs
  have single : jobs.Nodup := ascending.imp fun before same => by
    rw [same] at before
    exact Nat.lt_irrefl _ before
  obtain ⟨turns, flat, perms⟩ := inTurn.whole distinct (whole.nodup_iff.mpr single)
    fun job mem => all job (whole.subset mem)
  have plain : concurrent = false → order = jobs := by
    rintro rfl
    rw [flat]
    exact flatten_of_singles perms
  have every : order.Perm jobs := by
    rw [List.perm_ext_iff_of_nodup distinct single]
    exact fun job => ⟨fun mem => whole.subset (inTurn.subset mem), all job⟩
  refine ⟨every, ⟨turns, flat, perms⟩, fun inside => ?_, plain, ?_⟩
  · exact (inLine inside).eq_of_length (every.trans whole.symm).length_eq
  cases concurrent with
  | false =>
    rw [plain rfl]
    exact ascending.imp fun before after => absurd after (Nat.lt_asymm before)
  | true =>
    refine inTurn.pairwise (fun step mem => ?_) (passes_plan ascending)
    simp only [plan, if_true] at mem
    obtain ⟨run, found, part⟩ := List.mem_flatMap.mp mem
    exact passes_of_mem_ofRun found part

-- What a journal says about the jobs of a batch: if the batch has been a success, all of them are
-- applied, and wherever all of them are, their first submissions are arranged by the steps.
structure Steps.Attested (concurrent staged : Bool) (jobs : List Job) (success : Prop)
    (told : List Entry) : Prop where
  whole : success → ∀ job ∈ jobs, (job, .ok ()) ∈ verdicts told
  arranged : (∀ job ∈ jobs, (job, .ok ()) ∈ verdicts told) →
    Arranges concurrent staged jobs (submitters told)

namespace Steps.Attested

variable {concurrent staged : Bool} {jobs : List Job} {success other : Prop} {told : List Entry}

-- Where nothing has been told, everything is applied only if there is nothing to apply.
theorem nil (failed : ¬success) : Attested concurrent staged jobs success [] where
  whole succeeded := absurd succeeded failed
  arranged applied := by
    have none : jobs = [] :=
      List.eq_nil_iff_forall_not_mem.mpr fun job mem => List.not_mem_nil (applied job mem)
    rw [none]
    exact arranges_of_inTurn .nil (InTurn.nil.idle _) (fun _ => List.nil_sublist _) .nil
      fun _ absent => absent

theorem imp (attested : Attested concurrent staged jobs success told) (implies : other → success) :
    Attested concurrent staged jobs other told :=
  ⟨fun succeeded => attested.whole (implies succeeded), attested.arranged⟩

-- Notes about anything but jobs change nothing.
theorem noted (attested : Attested concurrent staged jobs success told) (event : Event) :
    Attested concurrent staged jobs success (.noted event :: told) :=
  ⟨attested.whole, attested.arranged⟩

end Steps.Attested

namespace BatchRun

variable {σ : Type} (transport : Transport σ)

-- In every run the operations that have submitted something keep to the laws of the batch.
theorem started_keeps {context : Context} {transaction : Option TransactionId}
    (course : Course context transaction) (world : World σ) (options : BatchOptions)
    (schedule : Schedule) (n : Nat) :
    let start : BatchRun σ := ⟨world, .start context transaction options schedule⟩
    let final := start.after transport n
    ∃ told, final.world.journal.entries = world.journal.entries ++ told ∧
      ∃ done left, Steps.plan options.concurrentTiers (Job.number schedule.ordered) = done ++ left ∧
        course.past done (submitters told) := by
  intro start final
  let Keeps (r : BatchRun σ) (told : List Entry) : Prop :=
    r.batch.context = context ∧ r.batch.transaction = transaction ∧
      Batch.Keeps course r.batch (submitters told)
  have none : Keeps start [] := ⟨rfl, rfl, rfl⟩
  have kept := after_keeps transport Keeps ?once none n
  case once =>
    rintro r told ⟨given, given', keeps⟩ events
    have quiet : (events.map Entry.noted).filterMap Entry.submitter? = [] := by
      rw [List.filterMap_map, List.filterMap_eq_nil_iff]
      exact fun _ _ => rfl
    obtain ⟨same, same', -, -⟩ := (Batch.step_moves r.batch
      (r.world.meet transport r.batch.context r.batch.demand).1).settings
    refine ⟨same.trans given, same'.trans given', ?_⟩
    rw [submitters_append, List.filterMap_append, quiet, List.nil_append]
    exact keeps.step given given' _
  obtain ⟨told, entries, -, -, keeps⟩ := kept
  obtain ⟨-, -, options', operations'⟩ := settings_after transport start n
  have planned : final.batch.steps =
      Steps.plan options.concurrentTiers (Job.number schedule.ordered) := by
    rw [Batch.steps, options', operations']
    rfl
  exact ⟨told, entries, planned ▸ keeps.past⟩

-- Whoever has been applied has submitted something.
theorem submitted_of_acknowledged {position : Nat} {told : List Entry} {r : BatchRun σ}
    (entries : (r.after transport n).world.journal.entries = r.world.journal.entries ++ told)
    (acknowledged : Acknowledged (hearAll position [] (r.exchanges transport n))) :
    position ∈ (submitters told).map (·.position) := by
  obtain ⟨request, status, earlier, heard, -⟩ := acknowledged
  have last : ⟨.submit request, some (.ok status)⟩ ∈
      hearAll position [] (r.exchanges transport n) := heard ▸ List.mem_cons_self
  rcases mem_hearAll last with absent | ⟨job, count, rfl, polled⟩
  · cases absent
  · rw [← polls_told transport r entries] at polled
    exact position_mem_submitters (List.mem_filter.mp polled).1 rfl

-- A batch is a success if it comes to its end with nothing that failed and nothing that was skipped.
theorem applied_in_order (world : World σ) (context : Context)
    (transaction : Option TransactionId) (options : BatchOptions) (schedule : Schedule) (n : Nat) :
    let start : BatchRun σ := ⟨world, .start context transaction options schedule⟩
    let final := start.after transport n
    let jobs := Job.number schedule.ordered
    ∃ told, final.world.journal.entries = world.journal.entries ++ told ∧
      Steps.Attested options.concurrentTiers transaction.isSome jobs
        (final.batch.stage = .finished ∧ final.batch.report.failed = [] ∧
          final.batch.report.skipped = []) told := by
  intro start final jobs
  obtain ⟨told, entries, done, left, steps, begun⟩ :=
    started_keeps transport (Course.inTurn context transaction) world options schedule n
  have inTurn : InTurn (submitters told) (Steps.plan options.concurrentTiers jobs) :=
    steps ▸ begun.idle left
  have inLine : transaction.isSome = true →
      (submitters told).Sublist (Steps.plan options.concurrentTiers jobs).flatten := by
    intro inside
    obtain ⟨id, rfl⟩ := Option.isSome_iff_exists.mp inside
    obtain ⟨told', entries', done, left, steps, within⟩ :=
      started_keeps transport (Course.inLine context id) world options schedule n
    cases List.append_cancel_left (entries.symm.trans entries')
    rw [steps, List.flatten_append]
    exact within.trans (List.sublist_append_left ..)
  obtain ⟨told', entries', standing, finished⟩ :=
    started_vouched transport world context transaction options schedule n
  cases List.append_cancel_left (entries.symm.trans entries')
  refine ⟨told, entries, ?_, fun applied => ?_⟩
  · rintro ⟨complete, flawless, whole⟩ job mem
    have stands : start.batch.Stands fun _ => [] :=
      Batch.start_stands context transaction options schedule
    obtain ⟨-, every⟩ := (after_stands transport stands n).of_finished complete
    rw [(settings_after transport start n).2.2.2] at every
    have reported := every.symm.subset mem
    rw [Report.mem_jobs, flawless, whole] at reported
    rcases reported with applied | absent | absent
    · exact ((finished complete).2 job).1.mp applied
    · cases absent
    · cases absent
  · refine Steps.arranges_of_inTurn (Job.ascending_number schedule.ordered) inTurn inLine
      (nodup_submitters told).of_map fun job mem => ?_
    obtain ⟨phase, standing, tells⟩ := standing job mem
    have acknowledged := standing.acknowledged ((tells _).mpr (applied job mem))
    obtain ⟨other, found, same⟩ := List.mem_map.mp
      (submitted_of_acknowledged transport entries acknowledged)
    have listed : other ∈ jobs := (Steps.flatten_plan_perm _ _).subset (inTurn.subset found)
    have one := List.inj_on_of_nodup_map (Job.nodup_position_number schedule.ordered) listed mem same
    exact one ▸ found

end BatchRun
end Reconcile
