import Reconcile.Proofs.Batch.Group

namespace Reconcile

-- Calls outside a transaction, oldest first: a version is read before each submission, which
-- carries it, and only a rejected version is followed by anything.
inductive Protocol (mutation : Mutation) : List Asked → Prop where
  | silent : Protocol mutation []
  | reading : Protocol mutation [⟨.readVersion, reply⟩]
  | submitting : Protocol mutation
      [⟨.readVersion, some (.ok version)⟩, ⟨.submit (mutation.request (.runtime version)), reply⟩]
  | again (later : Protocol mutation calls) : Protocol mutation
      (⟨.readVersion, some (.ok version)⟩ ::
        ⟨.submit (mutation.request (.runtime version)), some (.ok conflictStatus)⟩ :: calls)

def submissions (calls : List Asked) : List Asked := calls.filter Asked.isSubmission

-- What the calls made so far say about the end. They are silent about an interruption.
structure Concluded (policy : Policy) (calls : List Asked) (ends : Except Failure Unit → Prop) :
    Prop where
  applied : ends (.ok ()) ↔ ∃ request status,
    calls.getLast? = some ⟨.submit request, some (.ok status)⟩ ∧ isSuccess status = true
  rejected : ∀ rejection, ends (.error (.api rejection)) ↔ ∃ request status,
    (submissions calls).getLast? = some ⟨.submit request, some (.ok status)⟩ ∧
      isSuccess status = false ∧ status ≠ conflictStatus ∧ rejection = request.rejection status
  exhausted : ∀ rejection attempts, ends (.error (.conflict rejection attempts)) ↔
    ∃ retries : UInt32, policy.maxRetries = some retries ∧ attempts = retries.toNat + 1 ∧
      attempts ≤ (submissions calls).length ∧
      (∀ a ∈ (submissions calls).take attempts, a.reply = some (.ok conflictStatus)) ∧
      ∃ request reply, (submissions calls).getLast? = some ⟨.submit request, reply⟩ ∧
        rejection = request.rejection conflictStatus
  unanswered : ∀ error, ends (.error (.transport error)) ↔ ∃ call,
    calls.getLast? = some ⟨call, some (.error error)⟩

-- Calls outside a transaction, newest first.
inductive Spoken (policy : Policy) (mutation : Mutation) : List Asked → Prop where
  | retried (earlier : Retried policy mutation calls rounds) : Spoken policy mutation calls
  | reading (earlier : Retried policy mutation calls rounds) :
      Spoken policy mutation (⟨.readVersion, reply⟩ :: calls)
  | submitting (earlier : Retried policy mutation calls rounds) :
      Spoken policy mutation (⟨.submit (mutation.request (.runtime version)), reply⟩ ::
        ⟨.readVersion, some (.ok version)⟩ :: calls)

-- How the last call ends an operation outside a transaction, if it does.
def verdict (policy : Policy) (calls : List Asked) : Option (Except Failure Unit) :=
  match calls.head? with
  | some ⟨_, some (.error error)⟩ => some (.error (.transport error))
  | some ⟨.submit request, some (.ok status)⟩ =>
    if isSuccess status then some (.ok ())
    else if status = conflictStatus then
      if policy.exhausted (submissions calls).length then
        some (.error (.conflict (request.rejection status) (submissions calls).length))
      else none
    else some (.error (.api (request.rejection status)))
  | _ => none

@[simp] theorem submissions_read (reply : Option Reply) (calls : List Asked) :
    submissions (⟨.readVersion, reply⟩ :: calls) = submissions calls := rfl

@[simp] theorem submissions_submit (request : Request) (reply : Option Reply)
    (calls : List Asked) : submissions (⟨.submit request, reply⟩ :: calls) =
      ⟨.submit request, reply⟩ :: submissions calls := rfl

@[simp] theorem submissions_reverse (calls : List Asked) :
    submissions calls.reverse = (submissions calls).reverse := List.filter_reverse ..

variable {policy : Policy} {mutation : Mutation} {calls : List Asked} {rounds : Nat}

namespace Retried

theorem submissions_length (earlier : Retried policy mutation calls rounds) :
    (submissions calls).length = rounds := by
  induction earlier with
  | start => rfl
  | again earlier left ih =>
    rw [submissions_submit, submissions_read, List.length_cons, ih]

theorem submissions_stale (earlier : Retried policy mutation calls rounds) :
    ∀ a ∈ submissions calls, ∃ version,
      a = ⟨.submit (mutation.request (.runtime version)), some (.ok conflictStatus)⟩ := by
  induction earlier with
  | start =>
    intro a absent
    cases absent
  | @again _ _ version earlier left ih =>
    intro a mem
    rw [submissions_submit, submissions_read] at mem
    rcases List.mem_cons.mp mem with rfl | older
    · exact ⟨version, rfl⟩
    · exact ih a older

theorem left (earlier : Retried policy mutation calls rounds) (retries : UInt32)
    (bound : policy.maxRetries = some retries) : rounds ≤ retries.toNat := by
  cases earlier with
  | start => exact Nat.zero_le _
  | again earlier left =>
    simp only [Policy.exhausted, bound, Option.any_some, decide_eq_false_iff_not] at left
    omega

theorem protocol (earlier : Retried policy mutation calls rounds) {later : List Asked}
    (keeps : Protocol mutation later) : Protocol mutation (calls.reverse ++ later) := by
  induction earlier generalizing later with
  | start => exact keeps
  | again earlier left ih =>
    rw [List.reverse_cons, List.reverse_cons, List.append_assoc, List.append_assoc]
    exact ih (.again keeps)

theorem verdict_none (earlier : Retried policy mutation calls rounds) :
    verdict policy calls = none := by
  have count := earlier.submissions_length
  cases earlier with
  | start => rfl
  | again earlier left =>
    simp only [verdict, List.head?_cons, isSuccess_conflictStatus, Bool.false_eq_true, if_false,
      if_true, count, left]

end Retried

theorem Spoken.protocol (spoken : Spoken policy mutation calls) :
    Protocol mutation calls.reverse := by
  cases spoken with
  | retried earlier =>
    rw [← List.append_nil calls.reverse]
    exact earlier.protocol .silent
  | reading earlier =>
    rw [List.reverse_cons]
    exact earlier.protocol .reading
  | submitting earlier =>
    rw [List.reverse_cons, List.reverse_cons, List.append_assoc]
    exact earlier.protocol .submitting

namespace Asks

theorem spoken_before (asks : Asks policy mutation none calls call attempts) :
    Spoken policy mutation calls := by
  cases asks with
  | read earlier => exact .retried earlier
  | submit earlier => exact .reading earlier

theorem spoken (asks : Asks policy mutation none calls call attempts) (reply : Option Reply) :
    Spoken policy mutation (⟨call, reply⟩ :: calls) := by
  cases asks with
  | read earlier => exact .reading earlier
  | submit earlier => exact .submitting earlier

theorem spoken_asking (asks : Asks policy mutation none calls call attempts) (polls : Nat) :
    Spoken policy mutation (asking call polls calls) := by
  cases polls with
  | zero => exact asks.spoken_before
  | succ polls => exact asks.spoken none

theorem verdict_asking (asks : Asks policy mutation none calls call attempts) (polls : Nat) :
    verdict policy (asking call polls calls) = none := by
  cases polls with
  | zero =>
    cases asks with
    | read earlier => exact earlier.verdict_none
    | submit earlier => rfl
  | succ polls => cases asks <;> rfl

end Asks

theorem Ends.verdict (ends : Ends policy attempts call reply result)
    (asks : Asks policy mutation none calls call attempts) :
    verdict policy (⟨call, some reply⟩ :: calls) = some result := by
  cases ends with
  | transport => cases asks <;> rfl
  | applied success => simp only [Reconcile.verdict, List.head?_cons, success, if_true]
  | rejected failure settled =>
    cases asks with
    | submit earlier =>
      rcases settled with staged | other
      · cases staged
      · simp only [Reconcile.verdict, List.head?_cons, failure, Bool.false_eq_true, if_false,
          if_neg other]
  | exhausted fresh used =>
    cases asks with
    | submit earlier =>
      simp only [Reconcile.verdict, List.head?_cons, isSuccess_conflictStatus, Bool.false_eq_true,
        if_false, if_true, submissions_submit, submissions_read, List.length_cons,
        earlier.submissions_length, used]

namespace Standing

variable {op : Operation} {phase : Phase}

theorem spoken (standing : Standing policy none op calls phase)
    (prepared : op.prepare false = .ok mutation) : Spoken policy mutation calls := by
  cases standing with
  | fresh => exact .retried .start
  | refused unfit => cases unfit.symm.trans prepared
  | reading ready asks =>
    cases ready.symm.trans prepared
    exact asks.spoken_asking _
  | submitting ready asks =>
    cases ready.symm.trans prepared
    exact asks.spoken_asking _
  | pausing ready earlier =>
    cases ready.symm.trans prepared
    exact .retried earlier
  | answered ready asks ends =>
    cases ready.symm.trans prepared
    exact asks.spoken _
  | interrupted ready asks =>
    cases ready.symm.trans prepared
    exact asks.spoken_asking _
  | overrun ready asks =>
    cases ready.symm.trans prepared
    exact asks.spoken _
  | overlong ready earlier =>
    cases ready.symm.trans prepared
    exact .retried earlier

-- The last call decides the end, unless an interruption does.
theorem verdict (standing : Standing policy none op calls phase)
    (prepared : op.prepare false = .ok mutation) :
    (∃ result, phase = .finished result ∧ verdict policy calls = some result) ∨
      verdict policy calls = none ∧
        ∀ result, phase = .finished result → ∃ i, result = .error (.context i) := by
  have unfinished : ∀ {later : Phase}, (∀ result, later ≠ .finished result) →
      ∀ result, later = .finished result → ∃ i, result = .error (.context i) :=
    fun never result last => absurd last (never result)
  cases standing with
  | refused unfit => cases unfit.symm.trans prepared
  | answered ready asks ends => exact .inl ⟨_, rfl, ends.verdict asks⟩
  | interrupted ready asks =>
    refine .inr ⟨asks.verdict_asking _, ?_⟩
    intro _ last
    cases last
    exact ⟨_, rfl⟩
  | fresh => exact .inr ⟨rfl, unfinished (by simp)⟩
  | reading ready asks => exact .inr ⟨asks.verdict_asking _, unfinished (by simp)⟩
  | submitting ready asks => exact .inr ⟨asks.verdict_asking _, unfinished (by simp)⟩
  | pausing ready earlier => exact .inr ⟨earlier.verdict_none, unfinished (by simp)⟩
  | overrun ready asks => exact .inr ⟨rfl, unfinished (by simp)⟩
  | overlong ready earlier => exact .inr ⟨earlier.verdict_none, unfinished (by simp)⟩

theorem finished_iff (standing : Standing policy none op calls phase)
    (prepared : op.prepare false = .ok mutation) {result : Except Failure Unit}
    (answered : ∀ i, result ≠ .error (.context i)) :
    phase = .finished result ↔ Reconcile.verdict policy calls = some result := by
  rcases standing.verdict prepared with ⟨end', complete, said⟩ | ⟨silent, interrupted⟩
  · rw [complete, said]
    simp only [Phase.finished.injEq, Option.some.injEq]
  · constructor
    · intro complete
      obtain ⟨i, stopped⟩ := interrupted result complete
      exact absurd stopped (answered i)
    · intro said
      cases silent.symm.trans said

end Standing

theorem verdict_applied : verdict policy calls = some (.ok ()) ↔ ∃ request status,
    calls.head? = some ⟨.submit request, some (.ok status)⟩ ∧ isSuccess status = true := by
  constructor
  · intro said
    unfold verdict at said
    split at said
    · cases said
    · split at said
      · exact ⟨_, _, ‹_›, ‹_›⟩
      · split at said
        · split at said <;> cases said
        · cases said
    · cases said
  · rintro ⟨request, status, last, success⟩
    simp only [verdict, last, success, if_true]

theorem verdict_rejected {rejection : Rejection} :
    verdict policy calls = some (.error (.api rejection)) ↔ ∃ request status,
      calls.head? = some ⟨.submit request, some (.ok status)⟩ ∧
        isSuccess status = false ∧ status ≠ conflictStatus ∧
          rejection = request.rejection status := by
  constructor
  · intro said
    unfold verdict at said
    split at said
    · cases said
    · split at said
      · cases said
      · split at said
        · split at said <;> cases said
        · cases said
          exact ⟨_, _, ‹_›, Bool.eq_false_iff.mpr ‹_›, ‹_›, rfl⟩
    · cases said
  · rintro ⟨request, status, last, failure, fresh, rfl⟩
    simp only [verdict, last, failure, Bool.false_eq_true, if_false, if_neg fresh]

theorem verdict_exhausted {rejection : Rejection} {attempts : Nat} :
    verdict policy calls = some (.error (.conflict rejection attempts)) ↔ ∃ request,
      calls.head? = some ⟨.submit request, some (.ok conflictStatus)⟩ ∧
        policy.exhausted attempts = true ∧ attempts = (submissions calls).length ∧
          rejection = request.rejection conflictStatus := by
  constructor
  · intro said
    unfold verdict at said
    split at said
    · cases said
    · split at said
      · cases said
      · split at said
        · rename_i stale
          subst stale
          split at said
          · cases said
            exact ⟨_, ‹_›, ‹_›, rfl, rfl⟩
          · cases said
        · cases said
    · cases said
  · rintro ⟨request, last, used, rfl, rfl⟩
    simp only [verdict, last, isSuccess_conflictStatus, Bool.false_eq_true, if_false, if_true, used]

theorem verdict_unanswered {error : TransportError} :
    verdict policy calls = some (.error (.transport error)) ↔
      ∃ call, calls.head? = some ⟨call, some (.error error)⟩ := by
  constructor
  · intro said
    unfold verdict at said
    split at said
    · cases said
      exact ⟨_, ‹_›⟩
    · split at said
      · cases said
      · split at said
        · split at said <;> cases said
        · cases said
    · cases said
  · rintro ⟨call, last⟩
    simp only [verdict, last]

namespace Retried

theorem stale_of_head (earlier : Retried policy mutation calls rounds)
    (last : (submissions calls).head? = some ⟨.submit request, some (.ok status)⟩) :
    status = conflictStatus := by
  obtain ⟨version, same⟩ := earlier.submissions_stale _ (List.mem_of_head? last)
  cases same
  rfl

end Retried

namespace Spoken

-- A submission with any other answer than a rejected version is the last call.
theorem head_of_fresh (spoken : Spoken policy mutation calls)
    (last : (submissions calls).head? = some ⟨.submit request, some (.ok status)⟩)
    (fresh : status ≠ conflictStatus) :
    calls.head? = some ⟨.submit request, some (.ok status)⟩ := by
  cases spoken with
  | retried earlier => exact absurd (earlier.stale_of_head last) fresh
  | reading earlier => exact absurd (earlier.stale_of_head last) fresh
  | submitting earlier => exact last

theorem rejected_iff {rejection : Rejection} (spoken : Spoken policy mutation calls) :
    verdict policy calls = some (.error (.api rejection)) ↔ ∃ request status,
      (submissions calls).head? = some ⟨.submit request, some (.ok status)⟩ ∧
        isSuccess status = false ∧ status ≠ conflictStatus ∧
          rejection = request.rejection status := by
  rw [verdict_rejected]
  constructor
  · rintro ⟨request, status, last, settled⟩
    refine ⟨request, status, ?_, settled⟩
    obtain ⟨earlier, rfl⟩ := List.head?_eq_some_iff.mp last
    rfl
  · rintro ⟨request, status, last, failure, fresh, same⟩
    exact ⟨request, status, spoken.head_of_fresh last fresh, failure, fresh, same⟩

theorem submissions_length_le (spoken : Spoken policy mutation calls) {retries : UInt32}
    (bound : policy.maxRetries = some retries) :
    (submissions calls).length ≤ retries.toNat + 1 := by
  cases spoken with
  | retried earlier =>
    rw [earlier.submissions_length]
    exact Nat.le_succ_of_le (earlier.left retries bound)
  | reading earlier =>
    rw [submissions_read, earlier.submissions_length]
    exact Nat.le_succ_of_le (earlier.left retries bound)
  | submitting earlier =>
    rw [submissions_submit, submissions_read, List.length_cons, earlier.submissions_length]
    exact Nat.succ_le_succ (earlier.left retries bound)

-- When the retries are used up, the last call is the submission that used up the last of them.
theorem spent (spoken : Spoken policy mutation calls) {retries : UInt32}
    (bound : policy.maxRetries = some retries)
    (many : retries.toNat + 1 ≤ (submissions calls).length) :
    ∃ earlier version reply, Retried policy mutation earlier retries.toNat ∧
      calls = ⟨.submit (mutation.request (.runtime version)), reply⟩ ::
        ⟨.readVersion, some (.ok version)⟩ :: earlier := by
  cases spoken with
  | retried earlier =>
    rw [earlier.submissions_length] at many
    have := earlier.left retries bound
    omega
  | reading earlier =>
    rw [submissions_read, earlier.submissions_length] at many
    have := earlier.left retries bound
    omega
  | @submitting _ rounds version reply earlier =>
    rw [submissions_submit, submissions_read, List.length_cons, earlier.submissions_length] at many
    have fewer := earlier.left retries bound
    have same : rounds = retries.toNat := by omega
    exact ⟨_, version, reply, same ▸ earlier, rfl⟩

-- As long as the newest submission was rejected because of its version, all of them were.
theorem submissions_stale (spoken : Spoken policy mutation calls)
    (last : calls.head? = some ⟨.submit request, some (.ok conflictStatus)⟩) :
    ∀ a ∈ submissions calls, a.reply = some (.ok conflictStatus) := by
  intro a mem
  cases spoken with
  | retried earlier =>
    obtain ⟨version, rfl⟩ := earlier.submissions_stale a mem
    rfl
  | reading earlier => cases last
  | submitting earlier =>
    cases last
    rw [submissions_submit, submissions_read] at mem
    rcases List.mem_cons.mp mem with rfl | older
    · rfl
    · obtain ⟨version, rfl⟩ := earlier.submissions_stale a older
      rfl

theorem exhausted_iff {rejection : Rejection} {attempts : Nat}
    (spoken : Spoken policy mutation calls) :
    verdict policy calls = some (.error (.conflict rejection attempts)) ↔
      ∃ retries : UInt32, policy.maxRetries = some retries ∧ attempts = retries.toNat + 1 ∧
        attempts ≤ (submissions calls).length ∧
        (∀ a ∈ (submissions calls).reverse.take attempts, a.reply = some (.ok conflictStatus)) ∧
        ∃ request reply, (submissions calls).head? = some ⟨.submit request, reply⟩ ∧
          rejection = request.rejection conflictStatus := by
  rw [verdict_exhausted]
  constructor
  · rintro ⟨request, last, used, rfl, rfl⟩
    obtain ⟨retries, bound, fewer⟩ := Option.any_eq_true _ _ |>.mp used
    have least := spoken.submissions_length_le bound
    have most := of_decide_eq_true fewer
    have stale := spoken.submissions_stale last
    refine ⟨retries, bound, by omega, Nat.le_refl _, ?_, request, some (.ok conflictStatus), ?_,
      rfl⟩
    · intro a mem
      exact stale a (List.mem_reverse.mp (List.mem_of_mem_take mem))
    · obtain ⟨earlier, rfl⟩ := List.head?_eq_some_iff.mp last
      rfl
  · rintro ⟨retries, bound, rfl, many, stale, request, reply, last, rfl⟩
    have count : (submissions calls).length = retries.toNat + 1 :=
      Nat.le_antisymm (spoken.submissions_length_le bound) many
    rw [List.take_of_length_le (Nat.le_of_eq (by rw [List.length_reverse, count]))] at stale
    obtain ⟨earlier, version, answer, retried, rfl⟩ := spoken.spent bound many
    cases last
    have newest : reply = some (.ok conflictStatus) :=
      stale ⟨.submit (mutation.request (.runtime version)), reply⟩
        (List.mem_reverse.mpr (List.mem_cons_self ..))
    subst newest
    refine ⟨_, rfl, ?_, count.symm, rfl⟩
    simp [Policy.exhausted, bound]

theorem concluded (spoken : Spoken policy mutation calls) {ends : Except Failure Unit → Prop}
    (decides : ∀ result, (∀ i, result ≠ .error (.context i)) →
      (ends result ↔ verdict policy calls = some result)) :
    Concluded policy calls.reverse ends := by
  constructor
  · rw [decides (.ok ()) nofun, List.getLast?_reverse]
    exact verdict_applied
  · intro rejection
    rw [decides (.error (.api rejection)) nofun, submissions_reverse, List.getLast?_reverse]
    exact spoken.rejected_iff
  · intro rejection attempts
    rw [decides (.error (.conflict rejection attempts)) nofun, submissions_reverse,
      List.length_reverse, List.getLast?_reverse]
    exact spoken.exhausted_iff
  · intro error
    rw [decides (.error (.transport error)) nofun, List.getLast?_reverse]
    exact verdict_unanswered

end Spoken
end Reconcile
