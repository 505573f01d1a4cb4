import Reconcile.Proofs.Batch.Interruption
import Reconcile.Proofs.Batch.Submitters

namespace Reconcile

-- Inside a transaction no version is read: an operation submits at once, and ends with the answer.
def Phase.Direct : Phase → Prop
  | .submitting request _ _ => request.mode.isStaged = true
  | .reading .. | .pausing .. => False
  | .fresh | .finished _ | .broken _ => True

namespace Execution

variable {context : Context} {id : TransactionId} {sight : Sight} {e : Execution}

-- What a step of an operation inside a transaction can be. Where it submits something, its turn is
-- over with it.
inductive Submits (e : Execution) (turn : Turn) : Prop where
  | silent (nothing : turn.entries.filterMap Entry.submitter? = []) (free : turn.wake = none)
  | told (once : turn.entries.filterMap Entry.submitter? = [e.job])
      (last : ¬(turn.wake = none ∧ ended ⟨e.job, turn.phase⟩ = false))

theorem submits_turn (direct : e.phase.Direct) :
    Submits e (e.turn context (some id) sight) ∧ (e.turn context (some id) sight).phase.Direct := by
  cases stage : e.phase with
  | fresh =>
    simp only [turn, stage]
    unfold begin
    split
    · exact ⟨.silent rfl rfl, trivial⟩
    · exact ⟨.silent rfl rfl, rfl⟩
    · contradiction
  | reading =>
    rw [stage] at direct
    exact direct.elim
  | pausing =>
    rw [stage] at direct
    exact direct.elim
  | submitting request attempts polls =>
    rw [stage] at direct
    simp only [turn, stage]
    split
    · exact ⟨.told rfl (by simp), direct⟩
    · exact ⟨.silent rfl rfl, trivial⟩
    · rename_i reply _
      cases reply with
      | error error => exact ⟨.told rfl (by simp [ended, afterSubmit, finish]), trivial⟩
      | ok status =>
        cases mode : request.mode with
        | staged =>
          simp only [afterSubmit, mode]
          exact ⟨.told rfl (by simp [ended, finish]), trivial⟩
        | runtime =>
          rw [Phase.Direct, mode] at direct
          cases direct
  | finished =>
    simp only [turn, stage]
    exact ⟨.silent rfl rfl, trivial⟩
  | broken =>
    simp only [turn, stage]
    exact ⟨.silent rfl rfl, trivial⟩

-- Whoever is known already is not enlisted again.
theorem Submits.enlisted {turn : Turn} (submits : Submits e turn) {known : List Job}
    (mem : e.job.position ∈ known.map (·.position)) :
    (turn.entries.filterMap Entry.submitter?).foldl enlist known = known := by
  cases submits with
  | silent nothing => rw [nothing, List.foldl_nil]
  | told once => rw [once, List.foldl_cons, List.foldl_nil, enlist_known mem]

end Execution

namespace Group

variable {context : Context} {id : TransactionId} {g : Group}

theorem ahead_step {transaction : Option TransactionId} {sight : Sight} (next : g.ahead = e :: rest) :
    (g.step context transaction sight).1.ahead =
      if (e.turn context transaction sight).wake = none ∧
        Execution.ended ⟨e.job, (e.turn context transaction sight).phase⟩ = false
      then ⟨e.job, (e.turn context transaction sight).phase⟩ :: rest else rest := by
  rw [step, next]
  dsimp only
  cases (e.turn context transaction sight).wake with
  | some wake => simp
  | none =>
    dsimp only
    split
    · simp [*]
    · simp [*]

-- A step inside a transaction, in the middle: those that have had their first turn have submitted
-- something or never will, and that in their order. All others are still ahead.
structure Lined (before known : List Job) (passed pending : List Execution) (g : Group) : Prop where
  parts : g.members = passed ++ pending
  next : pending <:+ g.ahead
  order : known.Sublist (before ++ passed.map (·.job))
  settled : ∀ e ∈ passed, e.ended = true ∨ e.job.position ∈ known.map (·.position)
  direct : ∀ e ∈ g.members, e.phase.Direct

variable {before known : List Job} {passed pending : List Execution}

theorem lined_start (within : known.Sublist before) (jobs : List Job) :
    Lined before known [] (jobs.map Execution.start) (start jobs) where
  parts := members_start jobs
  next := List.suffix_refl _
  order := by
    rw [List.map_nil, List.append_nil]
    exact within
  settled := fun _ absent => (List.not_mem_nil absent).elim
  direct := by
    intro e mem
    rw [members_start] at mem
    obtain ⟨job, -, rfl⟩ := List.mem_map.mp mem
    trivial

theorem direct_step (next : g.ahead = e :: rest) (direct : ∀ e ∈ g.members, e.phase.Direct)
    (sight : Sight) : ∀ e ∈ (g.step context (some id) sight).1.members, e.phase.Direct := by
  intro other mem
  rcases (mem_members_step next).mp mem with rfl | stays
  · exact (Execution.submits_turn (direct e ((mem_members_of_ahead next).mpr (.inl rfl)))).2
  · exact direct other ((mem_members_of_ahead next).mpr (.inr stays))

-- A turn of an operation that has had its first one.
theorem Lined.again (lined : g.Lined before known passed pending) (next : g.ahead = e :: rest)
    (later : pending <:+ rest) (sight : Sight) :
    ∃ passed, Lined before
      (((g.step context (some id) sight).2.filterMap Entry.submitter?).foldl enlist known)
      passed pending (g.step context (some id) sight).1 := by
  obtain ⟨middle, rfl⟩ := later
  obtain rfl : passed = g.seen.reverse ++ e :: middle := by
    have whole := lined.parts
    rw [members_of_ahead next, ← List.cons_append, ← List.append_assoc] at whole
    exact (List.append_cancel_right whole).symm
  have own := lined.settled e (List.mem_append_right _ List.mem_cons_self)
  have same : ((g.step context (some id) sight).2.filterMap Entry.submitter?).foldl enlist known =
      known := by
    rw [entries_step next]
    rcases own with complete | mem
    · rw [Execution.turn_ended complete]
      rfl
    · have direct := lined.direct e ((mem_members_of_ahead next).mpr (.inl rfl))
      exact (Execution.submits_turn direct).1.enlisted mem
  rw [same]
  refine ⟨g.seen.reverse ++ ⟨e.job, (e.turn context (some id) sight).phase⟩ :: middle,
    ?_, ?_, ?_, fun other mem => ?_, direct_step next lined.direct sight⟩
  · rw [members_step next, List.append_assoc]
    rfl
  · rw [ahead_step next]
    split
    · exact (List.suffix_append middle pending).trans (List.suffix_cons ..)
    · exact List.suffix_append middle pending
  · have order := lined.order
    rw [List.map_append, List.map_cons] at order ⊢
    exact order
  · rcases List.mem_append.mp mem with earlier | mem
    · exact lined.settled other (List.mem_append_left _ earlier)
    · rcases List.mem_cons.mp mem with rfl | mem
      · refine own.imp (fun complete => ?_) fun mem => mem
        rw [Execution.turn_ended complete]
        exact complete
      · exact lined.settled other (List.mem_append_right _ (List.mem_cons_of_mem _ mem))

-- An operation leaves its first turn, and is settled with it.
theorem Lined.onward {more : List Job} {sight : Sight}
    (lined : g.Lined before known passed (e :: rest)) (next : g.ahead = e :: rest)
    (order : more.Sublist (before ++ passed.map (·.job) ++ [e.job]))
    (kept : ∀ position ∈ known.map (·.position), position ∈ more.map (·.position))
    (own : Execution.ended ⟨e.job, (e.turn context (some id) sight).phase⟩ = true ∨
      e.job.position ∈ more.map (·.position))
    (behind : (g.step context (some id) sight).1.ahead = rest) :
    Lined before more (passed ++ [⟨e.job, (e.turn context (some id) sight).phase⟩]) rest
      (g.step context (some id) sight).1 := by
  have parts : g.seen.reverse = passed := by
    have whole := lined.parts
    rw [members_of_ahead next] at whole
    exact List.append_cancel_right whole
  refine ⟨?_, ?_, ?_, fun other mem => ?_, direct_step next lined.direct sight⟩
  · rw [members_step next, parts, List.append_assoc]
    rfl
  · exact behind ▸ List.suffix_refl rest
  · rw [List.map_append, ← List.append_assoc]
    exact order
  · rcases List.mem_append.mp mem with earlier | last
    · exact (lined.settled other earlier).imp (fun complete => complete) fun mem => kept _ mem
    · rw [List.mem_singleton.mp last]
      exact own

-- The first turn of an operation, as far as it goes without a wait.
theorem Lined.first (lined : g.Lined before known passed (e :: rest)) (next : g.ahead = e :: rest)
    (sight : Sight) : ∃ passed pending, Lined before
      (((g.step context (some id) sight).2.filterMap Entry.submitter?).foldl enlist known)
      passed pending (g.step context (some id) sight).1 := by
  have direct := lined.direct e ((mem_members_of_ahead next).mpr (.inl rfl))
  have submits : Execution.Submits e (e.turn context (some id) sight) :=
    (Execution.submits_turn direct).1
  have behind : (g.step context (some id) sight).1.ahead = _ := ahead_step next
  rw [entries_step next]
  cases submits with
  | silent nothing free =>
    rw [nothing, List.foldl_nil]
    cases complete : Execution.ended ⟨e.job, (e.turn context (some id) sight).phase⟩ with
    | true =>
      rw [if_neg (by simp [complete])] at behind
      exact ⟨_, _, lined.onward next (lined.order.trans (List.sublist_append_left ..))
        (fun _ mem => mem) (.inl complete) behind⟩
    | false =>
      rw [if_pos ⟨free, complete⟩] at behind
      have whole := lined.parts
      rw [members_of_ahead next] at whole
      have parts : (g.step context (some id) sight).1.members = _ := members_step next
      rw [List.append_cancel_right whole] at parts
      exact ⟨passed, _, parts, behind ▸ List.suffix_refl _, lined.order, lined.settled,
        direct_step next lined.direct sight⟩
  | told once last =>
    rw [once, List.foldl_cons, List.foldl_nil]
    rw [if_neg last] at behind
    exact ⟨_, _, lined.onward next (enlist_sublist lined.order e.job)
      (fun _ mem => position_mem_enlist_of_mem mem e.job) (.inr (position_mem_enlist known e.job))
      behind⟩

theorem Lined.step (lined : g.Lined before known passed pending) (sight : Sight) :
    ∃ passed pending, Lined before
      (((g.step context (some id) sight).2.filterMap Entry.submitter?).foldl enlist known)
      passed pending (g.step context (some id) sight).1 := by
  cases next : g.ahead with
  | nil =>
    have none : pending = [] := List.suffix_nil.mp (next ▸ lined.next)
    have same : (g.step context (some id) sight).1.members = g.members := members_step_of_nil next
    subst none
    refine ⟨passed, [], same.trans lined.parts, List.nil_suffix, ?_, ?_, same ▸ lined.direct⟩
    · rw [step_of_nil next]
      exact lined.order
    · rw [step_of_nil next]
      exact lined.settled
  | cons e rest =>
    rcases List.suffix_cons_iff.mp (next ▸ lined.next) with rfl | later
    · exact lined.first next sight
    · obtain ⟨passed, again⟩ := lined.again next later sight
      exact ⟨passed, pending, again⟩

end Group

-- Inside a transaction the operations submit in the order of the steps, and of the operations at
-- each step.
def Course.inLine (context : Context) (id : TransactionId) : Course context (some id) where
  past done known := known.Sublist done.flatten
  within done g known := ∃ passed pending, g.Lined done.flatten known passed pending
  nothing := .slnil
  enters within := ⟨_, _, Group.lined_start within _⟩
  turns := fun ⟨_, _, lined⟩ sight => lined.step sight
  leaves := by
    rintro done g known ⟨passed, pending, lined⟩
    rw [List.flatten_append, List.flatten_singleton, lined.parts, List.map_append,
      ← List.append_assoc]
    exact lined.order.trans (List.sublist_append_left ..)

end Reconcile
