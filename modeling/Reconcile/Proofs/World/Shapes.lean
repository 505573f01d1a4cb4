import Reconcile.Proofs.Plan.Completeness
import Reconcile.Proofs.Schedule.Order
import Reconcile.Proofs.Submission.Legality
import Reconcile.Proofs.World.Mode

namespace Reconcile

open Requirement

namespace Operation

-- What every operation of a plan is: addressed the way its section is located, and if it has a
-- payload, that is an object already.
structure WellMade (op : Operation) : Prop where
  shape : op.address.shape = op.kind.shape
  wire : ∀ payload ∈ op.payload, ∃ fields, payload.wire = .ok fields

-- An operation is on a positional list just where its section is located by positions, and just
-- then it is carried out alone, whatever else is in its run.
structure Agreed (op : Operation) : Prop where
  shape : op.address.shape = op.kind.shape
  positional : op.positional?.isSome = true ↔ op.kind.shape = .indexedChild
  alone : op.positional?.isSome = true ↔
    ∀ run position, ⟨position, op⟩ ∈ run → Steps.independent run ⟨position, op⟩ = false

-- What can be wrong with such an operation before anything is sent.
inductive RefusedFor (op : Operation) (inTransaction : Bool) : Failure → Prop where
  | verb (single : op.kind.shape = .singleton) (other : op.verb ≠ .update) :
      RefusedFor op inTransaction (.validation (.unsupportedVerb op.kind op.verb))
  | housing (inside : parent ∈ op.address.parent?) (foreign : parent.kind ∉ op.kind.parents) :
      RefusedFor op inTransaction (.validation (.parentNotAllowed op.kind parent.kind))
  | blank (listed : (field, text) ∈ op.address.identifiers) (blank : Text.isBlank text = true) :
      RefusedFor op inTransaction (.validation (.emptyField op.kind field))
  | mode (outside : inTransaction = false) (staged : op.kind.runtime = false) :
      RefusedFor op inTransaction (.validation (.transactionRequired op.kind))
  | payload (kept : op.verb ≠ .delete) (bare : op.payload = none) :
      RefusedFor op inTransaction (.validation (.missingPayload op.kind op.verb))

-- A failure that has nothing to do with shapes or with the form of payloads.
structure FailsFor (op : Operation) (inTransaction : Bool) (failure : Failure) : Prop where
  shaped : ∀ kind, failure ≠ .validation (.shapeMismatch kind)
  formed : ∀ error, failure ≠ .transform error
  locally : failure.isLocal = true → op.RefusedFor inTransaction failure

variable {op : Operation} {inTransaction : Bool} {failure : Failure}

theorem positional?_isSome : op.positional?.isSome = true ↔ op.address.shape = .indexedChild := by
  unfold positional?
  cases op.address <;> simp [Address.shape]

theorem independent_singleton (job : Job) :
    Steps.independent [job] job = !decide (job.operation.kind.shape = .indexedChild) := by
  cases shape : job.operation.kind.shape <;> simp [Steps.independent, shape]

namespace WellMade

theorem agreed (made : op.WellMade) : op.Agreed := by
  have positional : op.positional?.isSome = true ↔ op.kind.shape = .indexedChild := by
    rw [positional?_isSome, made.shape]
  refine ⟨made.shape, positional, positional.trans ⟨fun indexed run position _ => ?_, ?_⟩⟩
  · simp [Steps.independent, indexed]
  · intro never
    have one := never [⟨0, op⟩] 0 (List.mem_singleton_self _)
    rw [independent_singleton, Bool.not_eq_false'] at one
    exact of_decide_eq_true one

theorem refusedFor_of_addressing {refusal : Refusal} (made : op.WellMade)
    (unmet : ⟨false, refusal⟩ ∈ op.kind.addressing op.address) :
    op.RefusedFor inTransaction (.validation refusal) := by
  rw [Section.addressing, List.mem_cons, List.mem_append, List.mem_map, List.mem_map] at unmet
  rcases unmet with shape | ⟨parent, inside, housing⟩ | ⟨⟨field, text⟩, listed, filling⟩
  · exact absurd made.shape (of_decide_eq_false (Requirement.mk.inj shape).1.symm)
  · obtain ⟨unmet, rfl⟩ := Requirement.mk.inj housing
    exact .housing (Option.mem_toList.mp inside) (of_decide_eq_false unmet)
  · obtain ⟨unmet, rfl⟩ := Requirement.mk.inj filling
    exact .blank listed (Bool.not_eq_eq_eq_not.mp unmet)

theorem refusedFor_of_sending (made : op.WellMade) (unmet : ⟨false, failure⟩ ∈ op.sending) :
    op.RefusedFor inTransaction failure := by
  unfold sending at unmet
  split at unmet
  · cases unmet
  · rename_i kept
    rw [List.mem_cons, List.mem_map] at unmet
    rcases unmet with bare | ⟨error, refused, -⟩
    · obtain ⟨unmet, rfl⟩ := Requirement.mk.inj bare
      exact .payload kept (Option.not_isSome_iff_eq_none.mp (Bool.eq_false_iff.mp unmet.symm))
    · obtain ⟨payload, sent, fails⟩ := Option.bind_eq_some_iff.mp (Option.mem_toList.mp refused)
      obtain ⟨fields, wire⟩ := made.wire payload sent
      rw [wire] at fails
      cases fails

-- Of all that is asked of such an operation, its shape and the form of its payload are met.
theorem refusedFor (made : op.WellMade) (unfit : op.prepare inTransaction = .error failure) :
    op.RefusedFor inTransaction failure := by
  rw [← failure?_eq_some, failure?_prepare, objection?_eq_some] at unfit
  obtain ⟨before, after, split, -⟩ := unfit
  have unmet : ⟨false, failure⟩ ∈ op.requirements inTransaction :=
    split ▸ List.mem_append_right _ (List.mem_cons_self ..)
  rw [requirements, List.mem_cons, List.mem_append, List.mem_cons, List.mem_map] at unmet
  rcases unmet with verb | ⟨⟨met, refusal⟩, asked, same⟩ | mode | sending
  · obtain ⟨unmet, rfl⟩ := Requirement.mk.inj verb
    obtain ⟨single, other⟩ := not_or.mp (of_decide_eq_false unmet.symm)
    exact .verb (not_not.mp single) other
  · obtain ⟨rfl, rfl⟩ := Requirement.mk.inj same
    exact made.refusedFor_of_addressing asked
  · obtain ⟨unmet, rfl⟩ := Requirement.mk.inj mode
    obtain ⟨outside, staged⟩ := Bool.or_eq_false_iff.mp unmet.symm
    exact .mode outside staged
  · exact made.refusedFor_of_sending sending

end WellMade

theorem FailsFor.of_local (locally : failure.isLocal = true → op.RefusedFor inTransaction failure) :
    op.FailsFor inTransaction failure := by
  refine ⟨?_, ?_, locally⟩
  · rintro kind rfl
    cases locally rfl
  · rintro error rfl
    cases locally rfl

end Operation

-- What an operation has failed with locally, it was refused for: whoever was called says otherwise.
theorem Standing.unfit_of_local {policy : Policy} {transaction : Option TransactionId}
    {op : Operation} {calls : List Asked} {failure : Failure}
    (standing : Standing policy transaction op calls (.finished (.error failure)))
    (here : failure.isLocal = true) : op.prepare transaction.isSome = .error failure := by
  cases standing with
  | refused unfit => exact unfit
  | answered prepared asks ends => cases ends <;> cases here
  | interrupted => cases here

theorem Standing.failsFor {policy : Policy} {transaction : Option TransactionId}
    {op : Operation} {calls : List Asked} {failure : Failure} (made : op.WellMade)
    (standing : Standing policy transaction op calls (.finished (.error failure))) :
    op.FailsFor transaction.isSome failure :=
  .of_local fun here => made.refusedFor (standing.unfit_of_local here)

theorem Plan.wellMade_of_mem {text : String} {ops : List Operation} {op : Operation}
    (read : parse text = .ok ops) (listed : op ∈ ops) : op.WellMade := by
  obtain ⟨items, -, become⟩ := parse_iff.mp read
  obtain ⟨item, e, -, makes⟩ := exists_of_mem become listed
  constructor
  · rw [makes.kind]
    exact (PlanEntry.addressed_iff.mp makes.address).1
  · intro payload sent
    rw [makes.payload] at sent
    obtain ⟨raw, -, rfl⟩ := Option.map_eq_some_iff.mp sent
    exact ⟨raw.fields, rfl⟩

namespace BatchRun

variable {σ : Type}

-- The plan, the schedule, the steps and the checks before sending agree on how the operations of a
-- plan are addressed, so none fails for its shape, alone or in a batch.
theorem planned_agree (text : String) (ops : List Operation) (read : Plan.parse text = .ok ops)
    (transport : Transport σ) (world : World σ) :
    (∀ op ∈ (Schedule.ofList ops).ordered, op.Agreed ∧ ∀ inTransaction failure,
      op.prepare inTransaction = .error failure → op.FailsFor inTransaction failure) ∧
    (∀ (context : Context) (transaction : Option TransactionId) (options : BatchOptions) (n : Nat),
      let start : BatchRun σ := ⟨world, .start context transaction options (.ofList ops)⟩
      let final := start.after transport n
      ∃ told, final.world.journal.entries = world.journal.entries ++ told ∧
        (∀ job ∈ Job.number (Schedule.ofList ops).ordered, ∀ failure,
          (job, .error failure) ∈ verdicts told →
            job.operation.FailsFor transaction.isSome failure) ∧
        (final.batch.stage = .finished → ∀ f ∈ final.batch.report.failed,
          f.job.operation.FailsFor transaction.isSome f.failure)) ∧
    (∀ errand : Errand, errand.job.operation ∈ ops → ∀ failure,
      (errand.job, .error failure) ∈ (errand.final transport world).group.results →
        errand.job.operation.FailsFor errand.transaction.isSome failure) := by
  have made : ∀ op ∈ ops, op.WellMade := fun op listed => Plan.wellMade_of_mem read listed
  have ordered : ∀ op ∈ (Schedule.ofList ops).ordered, op.WellMade :=
    fun op listed => made op ((Schedule.ordered_perm ops).subset listed)
  refine ⟨fun op listed => ⟨(ordered op listed).agreed, fun inTransaction failure unfit => ?_⟩,
    fun context transaction options n => ?_, fun errand listed failure ends => ?_⟩
  · exact .of_local fun _ => (ordered op listed).refusedFor unfit
  · intro start final
    obtain ⟨told, entries, vouched, reported⟩ :=
      started_vouched transport world context transaction options (.ofList ops) n
    have fails : ∀ job ∈ Job.number (Schedule.ofList ops).ordered, ∀ failure,
        (job, .error failure) ∈ verdicts told →
          job.operation.FailsFor transaction.isSome failure := by
      intro job listed failure told
      obtain ⟨phase, standing, tells⟩ := vouched job listed
      obtain rfl := (tells _).mpr told
      exact standing.failsFor (ordered _ (Job.mem_of_number listed))
    refine ⟨told, entries, fails, fun complete f failed => ?_⟩
    obtain ⟨-, whole, -⟩ :=
      started_accounts transport world context transaction options (.ofList ops) n complete
    have listed : f.job ∈ Job.number (Schedule.ofList ops).ordered :=
      whole.subset (Report.mem_jobs.mpr (.inr (.inl (List.mem_map_of_mem failed))))
    exact fails f.job listed f.failure ((((reported complete).2 f.job).2 f.failure).mp failed)
  · obtain ⟨phase, standing, tells⟩ := errand.standing transport world
    obtain rfl := (tells _).mpr ends
    exact standing.failsFor (made _ listed)

-- Each entry is the list of its values.
def allWrong : String :=
  "[[\"create\",\"global\"],[\"delete\",\"userlist\",\"u\"],[\"delete\",\"cache\",\" \"]," ++
    "[\"update\",\"cache\",\"c\"],[\"update\",\"bind\",\"b\",[\"backend\",\"app\"]]]"

def wrongOps : List Operation :=
  [⟨.create, .global, .singleton, none⟩, ⟨.delete, .userlist, .named "u", none⟩,
    ⟨.delete, .cache, .named " ", none⟩, ⟨.update, .cache, .named "c", none⟩,
    ⟨.update, .bind, .child ⟨.backend, "app"⟩ "b", none⟩]

theorem allWrong_read : Plan.parse allWrong = .ok wrongOps := by cbv

def wrongRun : BatchRun Unit :=
  ⟨⟨0, false, (), fun _ => 0, 0, []⟩,
    .start {} none { continueOnError := true, concurrentTiers := true } (.ofList wrongOps)⟩

-- Each of the five, and nothing else.
theorem allWrong_refused : Plan.parse allWrong = .ok wrongOps ∧
    (wrongRun.after staleForever 16).batch.report.failed.map (·.failure) =
      [.validation (.unsupportedVerb .global .create),
        .validation (.missingPayload .cache .update),
        .validation (.parentNotAllowed .bind .backend),
        .validation (.transactionRequired .userlist),
        .validation (.emptyField .cache "name")] ∧
    ∀ f ∈ (wrongRun.after staleForever 16).batch.report.failed,
      f.job.operation.FailsFor false f.failure := by
  have complete : (wrongRun.after staleForever 16).batch.stage = .finished := by cbv
  refine ⟨allWrong_read, by cbv, ?_⟩
  unfold wrongRun at complete ⊢
  obtain ⟨-, batches, -⟩ := planned_agree allWrong wrongOps allWrong_read staleForever
    ⟨0, false, (), fun _ => 0, 0, []⟩
  obtain ⟨told, -, -, fails⟩ :=
    batches {} none { continueOnError := true, concurrentTiers := true } 16
  exact fails complete

end BatchRun
end Reconcile
