import Reconcile.Proofs.Submission.Mode
import Reconcile.Proofs.World.GroupRun
import Reconcile.Proofs.World.Testimony

namespace Reconcile

variable {σ : Type}

-- One operation that is carried out by itself, and the number of steps for which it is.
structure Errand where
  context : Context
  transaction : Option TransactionId
  job : Job
  steps : Nat

namespace Errand

def start (errand : Errand) (world : World σ) : GroupRun σ := ⟨world, .start [errand.job]⟩

def final (transport : Transport σ) (errand : Errand) (world : World σ) : GroupRun σ :=
  (errand.start world).after transport errand.context errand.transaction errand.steps

-- The world that operations leave which are carried out one after another. Nobody has to wait for the
-- end of one before the next is begun.
def leave (transport : Transport σ) (world : World σ) (errands : List Errand) : World σ :=
  errands.foldl (fun w errand => (errand.final transport w).world) world

end Errand

theorem World.job_of_exchange {transport : Transport σ} {context : Context} {demand : Demand}
    {w : World σ} (mem : entry ∈ w.exchange transport context demand) :
    ∃ job call count, demand = .poll job call count ∧ entry.job? = some job := by
  unfold World.exchange at mem
  split at mem
  · split at mem
    · cases mem
    · rw [List.mem_singleton.mp mem]
      exact ⟨_, _, _, rfl, rfl⟩
  · cases mem

theorem GroupRun.job_of_exchanges {transport : Transport σ} {context : Context}
    {transaction : Option TransactionId} {r : GroupRun σ} (n : Nat) :
    ∀ entry ∈ r.exchanges transport context transaction n,
      ∃ job ∈ r.group.members.map (·.job), entry.job? = some job := by
  induction n generalizing r with
  | zero => exact fun _ absent => (List.not_mem_nil absent).elim
  | succ n ih =>
    intro entry mem
    rcases List.mem_append.mp mem with now | later
    · obtain ⟨job, call, count, asks, own⟩ := World.job_of_exchange now
      obtain ⟨e, rest, next, rfl, -⟩ := Group.ahead_of_demand asks
      have member := (Group.mem_members_of_ahead next).mpr (.inl rfl)
      exact ⟨e.job, List.mem_map_of_mem member, own⟩
    · obtain ⟨job, member, own⟩ := ih entry later
      rw [GroupRun.group_step, Group.jobs_step] at member
      exact ⟨job, member, own⟩

theorem Errand.stands (errand : Errand) (world : World σ) :
    (errand.start world).group.Stands errand.context.policy errand.transaction fun _ => [] :=
  Group.start_stands _ _ (List.nodup_singleton errand.job.position) fun _ _ => rfl

-- An operation carried out by itself has come as far as its calls say.
theorem Errand.standing (transport : Transport σ) (errand : Errand) (world : World σ) :
    ∃ phase, Standing errand.context.policy errand.transaction errand.job.operation
        (hearAll errand.job.position []
          ((errand.start world).exchanges transport errand.context errand.transaction errand.steps))
        phase ∧
      ∀ result, phase = .finished result ↔
        (errand.job, result) ∈ (errand.final transport world).group.results := by
  have stands : (errand.final transport world).group.Stands errand.context.policy
      errand.transaction _ := GroupRun.after_stands (errand.stands world) errand.steps
  have present : errand.job ∈ (errand.final transport world).group.members.map (·.job) := by
    rw [final, GroupRun.jobs_after, start, Group.jobs_start]
    exact List.mem_singleton_self _
  obtain ⟨e, member, same⟩ := List.mem_map.mp present
  rw [← same]
  exact ⟨e.phase, stands.standing e member,
    fun _ => (Group.result_of_mem stands.distinct member).symm⟩

namespace BatchRun

theorem job_of_exchanges (transport : Transport σ) {r : BatchRun σ} {heard : Nat → List Asked}
    (stands : r.batch.Stands heard) (n : Nat) : ∀ entry ∈ r.exchanges transport n,
      ∃ job ∈ Job.number r.batch.operations, entry.job? = some job := by
  induction n generalizing r heard with
  | zero => exact fun _ absent => (List.not_mem_nil absent).elim
  | succ n ih =>
    intro entry mem
    rcases List.mem_append.mp mem with now | later
    · obtain ⟨job, call, count, asks, own⟩ := World.job_of_exchange now
      exact ⟨job, stands.listed_of_demand asks, own⟩
    · obtain ⟨job, member, own⟩ := ih (step_stands transport stands) entry later
      rw [← (settings_after transport r 1).2.2.2]
      exact ⟨job, member, own⟩

-- What a batch asks of the other side, and what operations do that are carried out one after another,
-- by the transaction that is given or not.
theorem calls_keep_mode (transport : Transport σ) (world : World σ) :
    (∀ (context : Context) (transaction : Option TransactionId) (options : BatchOptions)
      (schedule : Schedule) (n : Nat),
      let start : BatchRun σ := ⟨world, .start context transaction options schedule⟩
      let final := start.after transport n
      (∀ entry ∈ start.exchanges transport n,
        ∃ job ∈ Job.number schedule.ordered, entry.job? = some job) ∧
      ∃ told, final.world.journal.entries = world.journal.entries ++ told ∧
        (∀ job ∈ Job.number schedule.ordered,
          KeepsMode transaction job.operation (start.calls transport n job.position)
            fun result => (job, result) ∈ verdicts told) ∧
        (final.batch.stage = .finished → ∀ job failure,
          (job, .error failure) ∈ verdicts told → ⟨job, failure⟩ ∈ final.batch.report.failed)) ∧
    (∀ (earlier : List Errand) (errand : Errand),
      let start := errand.start (Errand.leave transport world earlier)
      (∀ entry ∈ start.exchanges transport errand.context errand.transaction errand.steps,
        entry.job? = some errand.job) ∧
      KeepsMode errand.transaction errand.job.operation
        (start.calls transport errand.context errand.transaction errand.steps errand.job.position)
        fun result => (errand.job, result) ∈
          (errand.final transport (Errand.leave transport world earlier)).group.results) := by
  constructor
  · intro context transaction options schedule n start final
    obtain ⟨told, entries, vouched, reported⟩ :=
      started_vouched transport world context transaction options schedule n
    refine ⟨job_of_exchanges transport (Batch.start_stands context transaction options schedule) n,
      told, entries, fun job mem => ?_, fun complete job failure mem => ?_⟩
    · obtain ⟨phase, standing, tells⟩ := vouched job mem
      exact standing.keepsMode.reverse fun result => (tells result).mp
    · exact (((reported complete).2 job).2 failure).mpr mem
  · intro earlier errand start
    constructor
    · intro entry mem
      obtain ⟨job, member, own⟩ := GroupRun.job_of_exchanges errand.steps entry mem
      change job ∈ (Group.start [errand.job]).members.map (·.job) at member
      rw [Group.jobs_start] at member
      exact List.mem_singleton.mp member ▸ own
    · obtain ⟨phase, standing, tells⟩ :=
        errand.standing transport (Errand.leave transport world earlier)
      exact standing.keepsMode.reverse fun result => (tells result).mp

-- Versions are told, and no submission gets through.
def staleForever : Transport Unit where
  poll _ _ call _ _ :=
    match call with
    | .submit _ => ⟨.ready (.ok conflictStatus), (), false, []⟩
    | _ => ⟨.ready (.ok 7), (), false, []⟩
  between _ _ := ⟨(), false, none⟩

def thirdRule : Job := ⟨0, ⟨.delete, .acl, .indexed ⟨.frontend, "web"⟩ 3, none⟩⟩

def opened : TransactionId := ⟨"tx", rfl⟩

def thirdRuleRun : BatchRun Unit :=
  ⟨⟨0, false, (), fun _ => 0, 0, []⟩, .start {} (some opened) {} (.ofList [thirdRule.operation])⟩

theorem thirdRule_keeps_mode :
    let request : Request := ⟨.delete, .acl, .indexed ⟨.frontend, "web"⟩ 3, .staged opened, none⟩
    let outside : Errand := ⟨{}, none, thirdRule, 3⟩
    thirdRule ∈ Job.number (Schedule.ofList [thirdRule.operation]).ordered ∧
      (thirdRuleRun.after staleForever 5).batch.stage = .finished ∧
      thirdRuleRun.calls staleForever 5 0 = [⟨.submit request, some (.ok 409)⟩] ∧
      ⟨thirdRule, .api ⟨409, .acl, .indexed ⟨.frontend, "web"⟩ 3⟩⟩ ∈
        (thirdRuleRun.after staleForever 5).batch.report.failed ∧
      (outside.start thirdRuleRun.world).calls staleForever {} none 3 0 = [] := by
  intro request outside
  have listed : thirdRule ∈ Job.number (Schedule.ofList [thirdRule.operation]).ordered := by
    have only : Job.number (Schedule.ofList [thirdRule.operation]).ordered = [thirdRule] := by cbv
    rw [only]
    exact List.mem_singleton_self _
  have complete : (thirdRuleRun.after staleForever 5).batch.stage = .finished := by cbv
  have said : thirdRuleRun.calls staleForever 5 0 = [⟨.submit request, some (.ok 409)⟩] := by cbv
  obtain ⟨batches, errands⟩ := calls_keep_mode staleForever thirdRuleRun.world
  obtain ⟨-, told, -, keeps, reported⟩ :=
    batches {} (some opened) {} (.ofList [thirdRule.operation]) 5
  have kept : Staged opened thirdRule.operation (thirdRuleRun.calls staleForever 5 0)
      fun result => (thirdRule, result) ∈ verdicts told := keeps thirdRule listed
  have mem : ⟨.submit request, some (.ok 409)⟩ ∈ thirdRuleRun.calls staleForever 5 0 :=
    said ▸ List.mem_singleton_self _
  have ended := kept.rejected request 409 mem rfl
  refine ⟨listed, complete, said, ?_, ?_⟩
  · exact reported complete _ _ ended
  · by_contra spoke
    exact ((errands [] outside).2.allowed spoke).2.1 rfl

end BatchRun
end Reconcile
