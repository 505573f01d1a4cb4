import Mathlib.Data.List.Nodup
import Reconcile.Proofs.Submission.Dialogue

namespace Reconcile

def Asked.acknowledged (a : Asked) : Bool :=
  match a.call, a.reply with
  | .submit _, some (.ok status) => isSuccess status
  | _, _ => false

def Unacknowledged (calls : List Asked) : Prop := ∀ a ∈ calls, a.acknowledged = false

-- Newest first: the last call got through, and it is the only one that did.
def Acknowledged (calls : List Asked) : Prop :=
  ∃ request status earlier, calls = ⟨.submit request, some (.ok status)⟩ :: earlier ∧
    isSuccess status = true ∧ Unacknowledged earlier

theorem Unacknowledged.nil : Unacknowledged [] := by
  intro a absent
  cases absent

theorem Unacknowledged.cons (head : a.acknowledged = false) (tail : Unacknowledged calls) :
    Unacknowledged (a :: calls) := by
  intro b mem
  rcases List.mem_cons.mp mem with rfl | later
  · exact head
  · exact tail b later

theorem Unacknowledged.countP (none : Unacknowledged calls) :
    calls.countP Asked.acknowledged = 0 :=
  List.countP_eq_zero.mpr fun a mem => Bool.eq_false_iff.mp (none a mem)

theorem Acknowledged.countP (once : Acknowledged calls) :
    calls.countP Asked.acknowledged = 1 := by
  obtain ⟨request, status, earlier, rfl, success, none⟩ := once
  have last : (⟨.submit request, some (.ok status)⟩ : Asked).acknowledged = true := success
  rw [List.countP_cons_of_pos last, none.countP]

theorem Retried.unacknowledged (earlier : Retried policy mutation calls rounds) :
    Unacknowledged calls := by
  induction earlier with
  | start => exact .nil
  | again earlier left ih => exact .cons isSuccess_conflictStatus (.cons rfl ih)

theorem Asks.unacknowledged (asks : Asks policy mutation transaction calls call attempts) :
    Unacknowledged calls := by
  cases asks with
  | stage => exact .nil
  | read earlier => exact earlier.unacknowledged
  | submit earlier => exact .cons rfl earlier.unacknowledged

theorem Asks.unacknowledged_asking (asks : Asks policy mutation transaction calls call attempts)
    (polls : Nat) : Unacknowledged (asking call polls calls) := by
  cases polls with
  | zero => exact asks.unacknowledged
  | succ polls =>
    refine .cons ?_ asks.unacknowledged
    cases call <;> rfl

namespace Standing

variable {policy : Policy} {transaction : Option TransactionId} {op : Operation}
  {calls : List Asked} {phase : Phase}

theorem acknowledged (standing : Standing policy transaction op calls phase)
    (applied : phase = .finished (.ok ())) : Acknowledged calls := by
  cases standing with
  | answered prepared asks ends =>
    cases applied
    cases ends with
    | applied success => exact ⟨_, _, _, rfl, success, asks.unacknowledged⟩
  | _ => cases applied

theorem unacknowledged (standing : Standing policy transaction op calls phase)
    (other : phase ≠ .finished (.ok ())) : Unacknowledged calls := by
  cases standing with
  | fresh => exact .nil
  | refused unfit => exact .nil
  | reading prepared asks => exact asks.unacknowledged_asking _
  | submitting prepared asks => exact asks.unacknowledged_asking _
  | pausing prepared earlier => exact earlier.unacknowledged
  | @answered _ _ call _ reply _ prepared asks ends =>
    cases ends with
    | transport =>
      refine .cons ?_ asks.unacknowledged
      cases call <;> rfl
    | applied success => exact absurd rfl other
    | rejected failure settled => exact .cons failure asks.unacknowledged
    | exhausted fresh used => exact .cons isSuccess_conflictStatus asks.unacknowledged
  | interrupted prepared asks => exact asks.unacknowledged_asking _
  | overrun prepared asks => exact .cons rfl asks.unacknowledged
  | overlong prepared earlier => exact earlier.unacknowledged

end Standing

namespace Report

def jobs (r : Report) : List Job := r.applied ++ (r.failed.map (·.job) ++ r.skipped)

-- A report that says of every operation what the answers to its calls say.
structure Tells (heard : Nat → List Asked) (r : Report) : Prop where
  applied : ∀ job ∈ r.applied, Acknowledged (heard job.position)
  failed : ∀ f ∈ r.failed, Unacknowledged (heard f.job.position)
  skipped : ∀ job ∈ r.skipped, heard job.position = []

def Fits (calls : List Asked) : Except Failure Unit → Prop
  | .ok _ => Acknowledged calls
  | .error _ => Unacknowledged calls

def enterAll (r : Report) (results : List (Job × Except Failure Unit)) : Report :=
  results.foldl (fun r result => r.enter result.1 result.2) r

theorem mem_jobs {r : Report} {job : Job} :
    job ∈ r.jobs ↔ job ∈ r.applied ∨ job ∈ r.failed.map (·.job) ∨ job ∈ r.skipped := by
  rw [jobs, List.mem_append, List.mem_append]

theorem nodup_applied {r : Report} (distinct : r.jobs.Nodup) : r.applied.Nodup :=
  (List.nodup_append.mp distinct).1

theorem nodup_failed {r : Report} (distinct : r.jobs.Nodup) : r.failed.Nodup :=
  (List.nodup_append.mp (List.nodup_append.mp distinct).2.1).1.of_map

-- Reports that say the same of every operation differ in the order of what they say at most.
theorem agree {r other : Report} {jobs : List Job} (distinct : jobs.Nodup)
    (whole : r.jobs.Perm jobs) (whole' : other.jobs.Perm jobs)
    (applied : ∀ job ∈ jobs, job ∈ r.applied ↔ job ∈ other.applied)
    (failed : ∀ job ∈ jobs, ∀ failure, ⟨job, failure⟩ ∈ r.failed ↔ ⟨job, failure⟩ ∈ other.failed) :
    r.applied.Perm other.applied ∧ r.failed.Perm other.failed := by
  have once : r.jobs.Nodup := whole.nodup_iff.mpr distinct
  have once' : other.jobs.Nodup := whole'.nodup_iff.mpr distinct
  constructor
  · rw [List.perm_ext_iff_of_nodup (nodup_applied once) (nodup_applied once')]
    intro job
    constructor
    · intro mem
      exact (applied job (whole.subset (mem_jobs.mpr (.inl mem)))).mp mem
    · intro mem
      exact (applied job (whole'.subset (mem_jobs.mpr (.inl mem)))).mpr mem
  · rw [List.perm_ext_iff_of_nodup (nodup_failed once) (nodup_failed once')]
    intro f
    constructor
    · intro mem
      have listed := whole.subset (mem_jobs.mpr (.inr (.inl (List.mem_map_of_mem mem))))
      exact (failed f.job listed f.failure).mp mem
    · intro mem
      have listed := whole'.subset (mem_jobs.mpr (.inr (.inl (List.mem_map_of_mem mem))))
      exact (failed f.job listed f.failure).mpr mem

-- In a report that counts every operation once, nothing but success applies them all.
theorem isSuccess_iff {r : Report} (distinct : r.jobs.Nodup) :
    r.isSuccess = true ↔ ∀ job ∈ r.jobs, job ∈ r.applied := by
  rw [isSuccess, Bool.and_eq_true, List.isEmpty_iff, List.isEmpty_iff]
  constructor
  · rintro ⟨failed, skipped⟩ job mem
    simpa [jobs, failed, skipped] using mem
  · intro all
    have others : r.failed.map (·.job) ++ r.skipped = [] := by
      rw [List.eq_nil_iff_forall_not_mem]
      intro job other
      have applied := all job (List.mem_append_right _ other)
      exact (List.nodup_append.mp distinct).2.2 job applied job other rfl
    exact ⟨List.map_eq_nil_iff.mp (List.append_eq_nil_iff.mp others).1,
      (List.append_eq_nil_iff.mp others).2⟩

theorem partiallyApplied_iff {r : Report} (distinct : r.jobs.Nodup) :
    r.partiallyApplied = true ↔
      r.staged = false ∧ r.applied ≠ [] ∧ ∃ job ∈ r.jobs, job ∉ r.applied := by
  rw [partiallyApplied, Bool.and_eq_true, Bool.and_eq_true, and_assoc]
  refine and_congr (by simp) (and_congr (by simp) ?_)
  rw [Bool.not_eq_true', ← Bool.not_eq_true, isSuccess_iff distinct]
  simp only [Classical.not_forall, exists_prop]

theorem enterAll_cons (r : Report) (job : Job) (result : Except Failure Unit)
    (rest : List (Job × Except Failure Unit)) :
    r.enterAll ((job, result) :: rest) = (r.enter job result).enterAll rest := rfl

theorem jobs_enter (r : Report) (job : Job) (result : Except Failure Unit) :
    (r.enter job result).jobs.Perm (job :: r.jobs) := by
  cases result with
  | ok done =>
    simp only [enter, jobs, List.append_assoc]
    exact List.perm_middle
  | error failure =>
    have moved : ((r.applied ++ r.failed.map (·.job)) ++ job :: r.skipped).Perm
        (job :: ((r.applied ++ r.failed.map (·.job)) ++ r.skipped)) := List.perm_middle
    rw [List.append_assoc, List.append_assoc] at moved
    simpa only [enter, jobs, List.map_append, List.map_cons, List.map_nil, List.append_assoc,
      List.singleton_append] using moved

theorem skipped_enter (r : Report) (job : Job) (result : Except Failure Unit) :
    (r.enter job result).skipped = r.skipped := by
  cases result <;> rfl

theorem jobs_enterAll (r : Report) (results : List (Job × Except Failure Unit)) :
    (r.enterAll results).jobs.Perm (r.jobs ++ results.map (·.1)) := by
  induction results generalizing r with
  | nil =>
    rw [List.map_nil, List.append_nil]
    exact .rfl
  | cons first rest ih =>
    obtain ⟨job, result⟩ := first
    rw [enterAll_cons, List.map_cons]
    exact (ih _).trans (((jobs_enter r job result).append_right _).trans List.perm_middle.symm)

theorem skipped_enterAll (r : Report) (results : List (Job × Except Failure Unit)) :
    (r.enterAll results).skipped = r.skipped := by
  induction results generalizing r with
  | nil => rfl
  | cons first rest ih => exact (ih _).trans (skipped_enter ..)

theorem jobs_skip (r : Report) (jobs : List Job) : (r.skip jobs).jobs = r.jobs ++ jobs := by
  simp [skip, Report.jobs]

namespace Tells

variable {heard : Nat → List Asked} {r : Report}

theorem empty (staged : Bool) : (Report.empty staged).Tells heard := by
  constructor <;>
    · intro job absent
      cases absent

theorem enter {job : Job} {result : Except Failure Unit} (told : r.Tells heard)
    (fits : Fits (heard job.position) result) : (r.enter job result).Tells heard := by
  cases result with
  | ok done =>
    refine ⟨fun other mem => ?_, told.failed, told.skipped⟩
    rcases List.mem_append.mp mem with before | last
    · exact told.applied other before
    · rw [List.mem_singleton.mp last]
      exact fits
  | error failure =>
    refine ⟨told.applied, fun other mem => ?_, told.skipped⟩
    rcases List.mem_append.mp mem with before | last
    · exact told.failed other before
    · rw [List.mem_singleton.mp last]
      exact fits

theorem enterAll {results : List (Job × Except Failure Unit)} (told : r.Tells heard)
    (fits : ∀ entry ∈ results, Fits (heard entry.1.position) entry.2) :
    (r.enterAll results).Tells heard := by
  induction results generalizing r with
  | nil => exact told
  | cons first rest ih =>
    exact ih (told.enter (fits first (List.mem_cons_self ..)))
      fun entry mem => fits entry (List.mem_cons_of_mem _ mem)

theorem skip {jobs : List Job} (told : r.Tells heard)
    (silent : ∀ job ∈ jobs, heard job.position = []) : (r.skip jobs).Tells heard := by
  refine ⟨told.applied, told.failed, fun job mem => ?_⟩
  rcases List.mem_append.mp mem with before | last
  · exact told.skipped job before
  · exact silent job last

-- A report is as true as it was as long as nothing is heard of its operations.
theorem hear {later : Nat → List Asked} (told : r.Tells heard)
    (same : ∀ job ∈ r.jobs, later job.position = heard job.position) : r.Tells later := by
  refine ⟨fun job mem => ?_, fun f mem => ?_, fun job mem => ?_⟩
  · rw [same job (List.mem_append_left _ mem)]
    exact told.applied job mem
  · rw [same f.job (List.mem_append_right _ (List.mem_append_left _ (List.mem_map_of_mem mem)))]
    exact told.failed f mem
  · rw [same job (List.mem_append_right _ (List.mem_append_right _ mem))]
    exact told.skipped job mem

end Tells
end Report
end Reconcile
