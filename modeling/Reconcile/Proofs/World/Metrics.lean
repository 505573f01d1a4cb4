import Mathlib
import Reconcile.Proofs.Journal.Growth
import Reconcile.Proofs.World.Mode

namespace Reconcile

variable {σ : Type}

-- What a run tells: what it has asked, each conflict it has met with, and nothing about others than
-- the operations that it carries out.
structure Telling (heard : Nat → List Asked) (jobs : List Job) (asked news : List Entry) :
    Prop where
  polls : news.filter Entry.isPoll = asked
  notes : ∀ position, Notes position (heard position) news
  known : ∀ entry ∈ news, ∀ job, entry.job? = some job → job ∈ jobs

namespace Telling

variable {heard : Nat → List Asked} {jobs : List Job} {asked news asked' news' : List Entry}

theorem nil : Telling heard jobs [] [] := by
  refine ⟨rfl, fun position => ?_, fun _ absent => (List.not_mem_nil absent).elim⟩
  exact (List.append_nil _).symm

theorem append (first : Telling heard jobs asked news)
    (rest : Telling (fun position => hearAll position (heard position) asked) jobs asked' news') :
    Telling heard jobs (asked ++ asked') (news ++ news') := by
  constructor
  · rw [List.filter_append, first.polls, rest.polls]
  · intro position
    have later := rest.notes position
    rw [← first.polls, hearAll_polls] at later
    exact (first.notes position).append later
  · intro entry mem
    rcases List.mem_append.mp mem with before | after
    · exact first.known entry before
    · exact rest.known entry after

-- What the other side notes is not about operations.
theorem noted (events : List Event) : Telling heard jobs [] (events.map .noted) := by
  have event : ∀ entry ∈ events.map Entry.noted, ∃ event, entry = .noted event := by
    intro entry mem
    obtain ⟨event, -, rfl⟩ := List.mem_map.mp mem
    exact ⟨event, rfl⟩
  have unpolled : (events.map Entry.noted).filter Entry.isPoll = [] := by
    refine List.filter_eq_nil_iff.mpr fun entry mem => ?_
    obtain ⟨_, rfl⟩ := event entry mem
    exact Bool.false_ne_true
  refine ⟨unpolled, fun position => .of_quiet ?_ fun entry mem => ?_, fun entry mem job about => ?_⟩
  · rw [← hearAll_polls, unpolled]
    rfl
  · obtain ⟨_, rfl⟩ := event entry mem
    rfl
  · obtain ⟨_, rfl⟩ := event entry mem
    cases about

end Telling

namespace BatchRun

variable (transport : Transport σ) {r : BatchRun σ} {heard : Nat → List Asked}

theorem step_telling (stands : r.batch.Stands heard) :
    ∃ news, (r.step transport).world.journal.entries = r.world.journal.entries ++ news ∧
      Telling heard (Job.number r.batch.operations) (r.exchange transport) news := by
  obtain ⟨events, noted⟩ := World.entries_meet transport r.batch.context r.batch.demand r.world
  have moves := r.batch.step_moves (r.world.meet transport r.batch.context r.batch.demand).1
  refine ⟨_, by rw [entries_step, noted, List.append_assoc], ?_⟩
  rw [← List.nil_append (r.exchange transport)]
  refine (Telling.noted events).append ⟨moves.polls, moves.notes stands, fun entry mem job about => ?_⟩
  exact stands.listed (moves.job_of_entry entry mem job about)

theorem after_telling (stands : r.batch.Stands heard) (n : Nat) :
    ∃ news, (r.after transport n).world.journal.entries = r.world.journal.entries ++ news ∧
      Telling heard (Job.number r.batch.operations) (r.exchanges transport n) news := by
  induction n generalizing r heard with
  | zero => exact ⟨[], (List.append_nil _).symm, .nil⟩
  | succ n ih =>
    obtain ⟨first, entries, now⟩ := step_telling transport stands
    obtain ⟨rest, entries', later⟩ := ih (step_stands transport stands)
    have listed : (r.step transport).batch.operations = r.batch.operations :=
      (settings_after transport r 1).2.2.2
    rw [listed] at later
    exact ⟨first ++ rest, by rw [after, entries', entries, List.append_assoc], now.append later⟩

end BatchRun

namespace GroupRun

variable (transport : Transport σ) {context : Context} {transaction : Option TransactionId}
  {r : GroupRun σ} {heard : Nat → List Asked}

theorem step_telling (stands : r.group.Stands context.policy transaction heard) :
    ∃ news, (r.step transport context transaction).world.journal.entries =
        r.world.journal.entries ++ news ∧
      Telling heard (r.group.members.map (·.job)) (r.world.exchange transport context r.group.demand)
        news ∧
      (r.step transport context transaction).group.results.Perm (r.group.results ++ verdicts news) := by
  obtain ⟨events, noted⟩ := World.entries_meet transport context r.group.demand r.world
  have entries : (r.step transport context transaction).world.journal.entries =
      (r.world.meet transport context r.group.demand).2.journal.entries ++
        (r.group.step context transaction (r.world.meet transport context r.group.demand).1).2 :=
    Journal.entries_record ..
  refine ⟨_, by rw [entries, noted, List.append_assoc], ?_, ?_⟩
  · rw [← List.nil_append (World.exchange ..)]
    exact (Telling.noted events).append
      ⟨Group.polls_step .., stands.notes _, Group.job_of_entry⟩
  · rw [verdicts_append, BatchRun.verdicts_noted]
    exact Group.results_step

theorem after_telling (stands : r.group.Stands context.policy transaction heard) (n : Nat) :
    ∃ news, (r.after transport context transaction n).world.journal.entries =
        r.world.journal.entries ++ news ∧
      Telling heard (r.group.members.map (·.job)) (r.exchanges transport context transaction n)
        news ∧
      (r.after transport context transaction n).group.results.Perm
        (r.group.results ++ verdicts news) := by
  induction n generalizing r heard with
  | zero =>
    refine ⟨[], (List.append_nil _).symm, .nil, ?_⟩
    rw [verdicts, List.filterMap_nil, List.append_nil]
    exact .rfl
  | succ n ih =>
    obtain ⟨first, entries, now, ended⟩ := step_telling transport stands
    obtain ⟨rest, entries', later, ended'⟩ := ih (step_stands stands)
    rw [group_step, Group.jobs_step] at later
    refine ⟨first ++ rest, by rw [after, entries', entries, List.append_assoc], now.append later, ?_⟩
    rw [verdicts_append, ← List.append_assoc]
    exact ended'.trans (ended.append_right _)

end GroupRun

-- What is measured of the operation at a position.
def measured (told : List Entry) (position : Nat) : List Metric :=
  (told.filter fun entry => entry.job?.any (·.position = position)).flatMap Entry.metrics

theorem measured_cons (entry : Entry) (told : List Entry) (position : Nat) :
    measured (entry :: told) position =
      (if entry.job?.any (·.position = position) then entry.metrics else []) ++
        measured told position := by
  rw [measured, List.filter_cons]
  split <;> rfl

theorem count_measured (told : List Entry) (position : Nat) (kind : Section) :
    (measured told position).count (.conflicts kind) =
      (told.filterMap (Entry.conflictAt? position)).count kind := by
  have one (entry : Entry) :
      (if entry.job?.any (·.position = position) then entry.metrics else []).count
        (.conflicts kind) = (entry.conflictAt? position).toList.count kind := by
    cases entry with
    | conflict job noted =>
      by_cases own : job.position = position <;>
        simp [Entry.job?, Entry.conflictAt?, Entry.metrics, own, List.count_singleton]
    | finished job staged result =>
      by_cases own : job.position = position <;>
        simp [Entry.job?, Entry.conflictAt?, Entry.metrics, own]
    | _ => simp [Entry.conflictAt?, Entry.metrics]
  induction told with
  | nil => rfl
  | cons entry told ih =>
    rw [measured_cons, List.count_append, ih, one, ← List.count_append, List.filterMap_cons]
    cases entry.conflictAt? position <;> rfl

theorem measured_eq_nil {told : List Entry} {position : Nat}
    (unnoted : told.filterMap (Entry.conflictAt? position) = [])
    (unended : ∀ v ∈ verdicts told, v.1.position ≠ position) : measured told position = [] := by
  refine List.flatMap_eq_nil_iff.mpr fun entry mem => ?_
  obtain ⟨mem, about⟩ := List.mem_filter.mp mem
  cases entry with
  | conflict job kind =>
    have own : job.position = position := by simpa [Entry.job?] using about
    cases (if_pos own).symm.trans (List.filterMap_eq_nil_iff.mp unnoted _ mem)
  | finished job staged result =>
    have ended : (job, result) ∈ verdicts told := List.mem_filterMap.mpr ⟨_, mem, rfl⟩
    exact absurd (by simpa [Entry.job?] using about) (unended _ ended)
  | _ => rfl

-- What an operation adds to the metrics before its end, by its calls and by how it ends.
structure Contributes (op : Operation) (calls : List Asked) (ends : Except Failure Unit → Prop)
    (metrics : List Metric) : Prop where
  conflicts : metrics.count (.conflicts op.kind) = calls.countP (·.stale?.isSome)
  applied : ends (.ok ()) → metrics.count (.conflicts op.kind) + 1 = (submissions calls).length
  exhausted : ∀ rejection attempts, ends (.error (.conflict rejection attempts)) →
    metrics.count (.conflicts op.kind) = attempts

theorem Standing.contributes {policy : Policy} {transaction : Option TransactionId} {op : Operation}
    {heard : List Asked} {phase : Phase} {told : List Entry} {position : Nat}
    {ends : Except Failure Unit → Prop} (standing : Standing policy transaction op heard phase)
    (noted : conflicts heard = told.filterMap (Entry.conflictAt? position))
    (ended : ∀ result, ends result → phase = .finished result) :
    Contributes op heard.reverse ends (measured told position) := by
  have count : (measured told position).count (.conflicts op.kind) = (conflicts heard).length := by
    rw [count_measured, ← noted, List.count_eq_length]
    exact fun kind mem => (standing.conflicts_kind kind mem).symm
  constructor
  · rw [count, conflicts, List.length_reverse, List.countP_reverse, List.length_filterMap_eq_countP]
  · intro applied
    rw [count, submissions_reverse, List.length_reverse]
    exact (ended _ applied ▸ standing).conflicts_applied
  · intro rejection attempts exhausted
    rw [count]
    exact (ended _ exhausted ▸ standing).conflicts_exhausted

-- What a report says has become of operations.
def Report.verdicts (r : Report) : List Verdict :=
  r.applied.map (·, .ok ()) ++ r.failed.map fun f => (f.job, .error f.failure)

namespace Report

variable {r : Report}

theorem jobs_verdicts (r : Report) : r.jobs = r.verdicts.map (·.1) ++ r.skipped := by
  simp [jobs, verdicts, Function.comp_def]

theorem length_verdicts (r : Report) :
    r.verdicts.length = r.applied.length + r.failed.length := by
  simp [verdicts]

theorem countP_verdicts (r : Report) : (r.verdicts.countP fun v => v.2.isOk) = r.applied.length := by
  have succeeded : ((r.applied.map (·, .ok ())).countP fun v : Verdict => v.2.isOk) =
      r.applied.length := by
    rw [List.countP_map]
    exact List.countP_eq_length.mpr fun _ _ => rfl
  have failed : ((r.failed.map fun f => (f.job, .error f.failure)).countP
      fun v : Verdict => v.2.isOk) = 0 := by
    rw [List.countP_map]
    exact List.countP_eq_zero.mpr fun _ _ => Bool.false_ne_true
  rw [verdicts, List.countP_append, succeeded, failed, Nat.add_zero]

-- Nothing has become of what was skipped.
theorem verdict_apart (distinct : (r.jobs.map (·.position)).Nodup) {job : Job}
    (skipped : job ∈ r.skipped) : ∀ v ∈ r.verdicts, v.1.position ≠ job.position := by
  rw [jobs_verdicts, List.map_append, List.nodup_append] at distinct
  intro v mem
  exact distinct.2.2 _ (List.mem_map_of_mem (List.mem_map_of_mem mem)) _
    (List.mem_map_of_mem skipped)

end Report

theorem verdicts_perm (told : List Verdict) : told.Perm
    ((told.filterMap Verdict.applied?).map (·, .ok ()) ++
      (told.filterMap Verdict.failed?).map fun f => (f.job, .error f.failure)) := by
  induction told with
  | nil => exact .rfl
  | cons verdict told ih =>
    obtain ⟨job, result⟩ := verdict
    cases result with
    | ok done => exact ih.cons _
    | error failure => exact (ih.cons _).trans List.perm_middle.symm

theorem Accounts.told_perm {steps : List (List Job)} {options : BatchOptions} {report : Report}
    {told : List Verdict} {checked : List (List Job) → Prop} {k : Nat}
    {results : List (List Verdict)}
    (accounts : Accounts steps options report told checked k results) :
    told.Perm report.verdicts := by
  rw [Report.verdicts, accounts.applied, accounts.failed]
  exact accounts.executed.trans (verdicts_perm _)

namespace Errand

variable (transport : Transport σ)

-- What has become of operations that are carried out one after another, and what they have asked.
def ends (world : World σ) : List Errand → List Verdict
  | [] => []
  | errand :: later =>
    (errand.final transport world).group.results ++ ends (errand.final transport world).world later

def calls (errand : Errand) (world : World σ) : List Asked :=
  (errand.start world).calls transport errand.context errand.transaction errand.steps
    errand.job.position

def asked (world : World σ) : List Errand → List Asked
  | [] => []
  | errand :: later =>
    errand.calls transport world ++ asked (errand.final transport world).world later

end Errand

-- The conflicts that are told of are those that have been met with since nothing was heard.
theorem Telling.conflicts_heard {jobs : List Job} {asked told : List Entry}
    (telling : Telling (fun _ => []) jobs asked told) (position : Nat) :
    conflicts (hearAll position [] asked) = told.filterMap (Entry.conflictAt? position) := by
  have noted := telling.notes position
  rwa [Notes, ← hearAll_polls, telling.polls] at noted

theorem Telling.stale_perm {jobs : List Job} {asked told : List Entry}
    (distinct : (jobs.map (·.position)).Nodup)
    (telling : Telling (fun _ => []) jobs asked told) : (told.filterMap Entry.conflict?).Perm
      ((jobs.flatMap fun job => (hearAll job.position [] asked).reverse).filterMap Asked.stale?) := by
  have each (position : Nat) : told.filterMap (Entry.conflictAt? position) =
      (hearAll position [] asked).reverse.filterMap Asked.stale? := by
    rw [List.filterMap_reverse]
    exact (telling.conflicts_heard position).symm
  rw [List.filterMap_flatMap]
  simp only [← each]
  exact conflicts_perm distinct telling.known

namespace Errand

-- What one operation adds to the metrics that is carried out by itself.
theorem tells (transport : Transport σ) (errand : Errand) (world : World σ) :
    ∃ told, (errand.final transport world).world.journal.entries = world.journal.entries ++ told ∧
      world.journal.Grows (errand.final transport world).world.journal
        (errand.final transport world).group.results (errand.calls transport world) ∧
      Contributes errand.job.operation (errand.calls transport world)
        (fun result => (errand.job, result) ∈ (errand.final transport world).group.results)
        (measured told errand.job.position) := by
  obtain ⟨told, entries, telling, ended⟩ :=
    GroupRun.after_telling transport (errand.stands world) errand.steps
  obtain ⟨phase, standing, tells⟩ := errand.standing transport world
  have jobs : (errand.start world).group.members.map (·.job) = [errand.job] :=
    Group.jobs_start [errand.job]
  have none : (errand.start world).group.results = [] := Group.results_start [errand.job]
  rw [jobs] at telling
  rw [none, List.nil_append] at ended
  have distinct : ([errand.job].map (·.position)).Nodup := List.nodup_singleton _
  have stale := telling.stale_perm distinct
  rw [List.flatMap_singleton] at stale
  refine ⟨told, entries, Journal.grows entries ended.symm stale, ?_⟩
  exact standing.contributes (telling.conflicts_heard _) fun result ends => (tells result).mpr ends

theorem grows (transport : Transport σ) (world : World σ) (errands : List Errand) :
    world.journal.Grows (leave transport world errands).journal (ends transport world errands)
      (asked transport world errands) := by
  induction errands generalizing world with
  | nil => exact .nil
  | cons errand later ih =>
    obtain ⟨_, -, now, -⟩ := errand.tells transport world
    exact now.trans (ih (errand.final transport world).world)

end Errand

namespace BatchRun

-- The metrics count what the report and the answers say.
theorem metrics_conserved (transport : Transport σ) (world : World σ) :
    (∀ (context : Context) (transaction : Option TransactionId) (options : BatchOptions)
      (schedule : Schedule) (n : Nat),
      let start : BatchRun σ := ⟨world, .start context transaction options schedule⟩
      let final := start.after transport n
      let report := final.batch.report
      let jobs := Job.number schedule.ordered
      let calls (job : Job) := start.calls transport n job.position
      final.batch.stage = .finished →
        world.journal.Grows final.world.journal report.verdicts (jobs.flatMap calls) ∧
        final.world.journal.total Metric.operationsName [] =
          world.journal.total Metric.operationsName [] +
            (report.applied.length + report.failed.length) ∧
        final.world.journal.total Metric.operationsName [("outcome", "ok")] =
          world.journal.total Metric.operationsName [("outcome", "ok")] + report.applied.length ∧
        ∃ told, final.world.journal.entries = world.journal.entries ++ told ∧ ∀ job ∈ jobs,
          Contributes job.operation (calls job) (fun result => (job, result) ∈ report.verdicts)
            (measured told job.position) ∧
          (job ∈ report.skipped → measured told job.position = [])) ∧
    (∀ errands : List Errand,
      world.journal.Grows (Errand.leave transport world errands).journal
        (Errand.ends transport world errands) (Errand.asked transport world errands) ∧
      ∀ earlier errand later, errands = earlier ++ errand :: later →
        let before := Errand.leave transport world earlier
        let final := errand.final transport before
        ∃ told, final.world.journal.entries = before.journal.entries ++ told ∧
          Contributes errand.job.operation (errand.calls transport before)
            (fun result => (errand.job, result) ∈ final.group.results)
            (measured told errand.job.position)) := by
  constructor
  · intro context transaction options schedule n start final report jobs calls complete
    have started : start.batch.Stands fun _ => [] :=
      Batch.start_stands context transaction options schedule
    have positions := Job.nodup_position_number schedule.ordered
    obtain ⟨-, whole, silent, told, k, results, entries, accounts⟩ :=
      started_accounts transport world context transaction options schedule n complete
    obtain ⟨told', entries', telling⟩ := after_telling transport started n
    cases List.append_cancel_left (entries.symm.trans entries')
    obtain ⟨told', entries', vouched, -⟩ :=
      started_vouched transport world context transaction options schedule n
    cases List.append_cancel_left (entries.symm.trans entries')
    have reported := accounts.told_perm
    have grows := Journal.grows entries reported (telling.stale_perm positions)
    refine ⟨grows, ?_, ?_, told, entries, fun job mem => ⟨?_, fun skipped => ?_⟩⟩
    · rw [← Report.length_verdicts]
      exact grows.every
    · rw [← Report.countP_verdicts]
      exact grows.applied
    · obtain ⟨phase, standing, tells⟩ := vouched job mem
      exact standing.contributes (telling.conflicts_heard _)
        fun result ends => (tells result).mpr (reported.mem_iff.mpr ends)
    · have unheard : hearAll job.position [] (start.exchanges transport n) = [] :=
        List.reverse_eq_nil_iff.mp (silent job skipped)
      have distinct := (whole.map (·.position)).nodup_iff.mpr positions
      refine measured_eq_nil ?_ fun v mem =>
        Report.verdict_apart distinct skipped v (reported.mem_iff.mp mem)
      rw [← telling.conflicts_heard, unheard]
      rfl
  · intro errands
    refine ⟨Errand.grows transport world errands, ?_⟩
    rintro earlier errand later rfl before final
    obtain ⟨told, entries, -, contributes⟩ := errand.tells transport before
    exact ⟨told, entries, contributes⟩

-- Of all submissions only the second gets through.
def secondOnly : Transport Nat where
  poll _ _ call _ submitted :=
    match call with
    | .submit _ =>
      ⟨.ready (.ok (if submitted = 1 then 200 else conflictStatus)), submitted + 1, false, []⟩
    | _ => ⟨.ready (.ok 7), submitted, false, []⟩
  between _ submitted := ⟨submitted, false, none⟩

def contestedWorld : World Nat := ⟨0, false, 0, fun _ => 0, 0, []⟩

def contested : BatchRun Nat :=
  ⟨contestedWorld, .start ⟨none, ⟨some 1, 0, 0⟩⟩ none {} (weighServers ["a", "b", "c"])⟩

theorem contested_conserved :
    (contested.after secondOnly 15).batch.stage = .finished ∧
      (contested.after secondOnly 15).batch.report.applied.map (·.position) = [0] ∧
      (contested.after secondOnly 15).batch.report.failed.map (·.job.position) = [1] ∧
      (contested.after secondOnly 15).batch.report.skipped.map (·.position) = [2] ∧
      (contested.after secondOnly 15).world.journal.total Metric.operationsName [] = 2 ∧
      (contested.after secondOnly 15).world.journal.total Metric.operationsName
        [("outcome", "ok")] = 1 ∧
      (contested.after secondOnly 15).world.journal.total Metric.conflictsName
        (Metric.conflicts .server).labels = 3 := by
  have complete : (contested.after secondOnly 15).batch.stage = .finished := by cbv
  have applied : (contested.after secondOnly 15).batch.report.applied.length = 1 := by cbv
  have failed : (contested.after secondOnly 15).batch.report.failed.length = 1 := by cbv
  have stale : (((Job.number (weighServers ["a", "b", "c"]).ordered).flatMap fun job =>
      contested.calls secondOnly 15 job.position).countP fun a => a.stale? = some .server) = 3 := by
    cbv
  refine ⟨complete, by cbv, by cbv, by cbv, ?_⟩
  unfold contested at complete applied failed stale ⊢
  obtain ⟨grows, every, succeeded, -⟩ := (metrics_conserved secondOnly contestedWorld).1
    ⟨none, ⟨some 1, 0, 0⟩⟩ none {} (weighServers ["a", "b", "c"]) 15 complete
  refine ⟨every.trans ?_, succeeded.trans ?_, (grows.conflicts .server).trans ?_⟩
  · rw [applied, failed]
    rfl
  · rw [applied]
    rfl
  · rw [stale]
    rfl

end BatchRun
end Reconcile
