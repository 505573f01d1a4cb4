import Reconcile.Proofs.Submission.Conversation
import Reconcile.Proofs.Submission.Prepare

namespace Reconcile

-- Calls inside a transaction: one submission at most, which is queued there. No version is read, and
-- whatever the status is that refuses the submission, the operation ends with it.
structure Staged (id : TransactionId) (op : Operation) (calls : List Asked)
    (ends : Except Failure Unit → Prop) : Prop where
  queued : ∀ a ∈ calls, ∃ request, a.call = .submit request ∧ request.mode = .staged id ∧
    request.kind = op.kind
  once : calls.length ≤ 1
  rejected : ∀ request status, ⟨.submit request, some (.ok status)⟩ ∈ calls →
    isSuccess status = false → ends (.error (.api ⟨status, request.kind, request.target⟩))

-- Calls outside a transaction: versions are read and submissions carry one. Nothing at all is called
-- for what can only be changed inside a transaction, and that is whatever is addressed by an index.
structure Immediate (op : Operation) (calls : List Asked) : Prop where
  versioned : ∀ a ∈ calls, a.call = .readVersion ∨
    ∃ request version, a.call = .submit request ∧ request.mode = .runtime version ∧
      request.kind = op.kind
  allowed : calls ≠ [] → op.kind.runtime = true ∧ op.kind.shape ≠ .indexedChild ∧
    op.address.shape ≠ .indexedChild

def KeepsMode (transaction : Option TransactionId) (op : Operation) (calls : List Asked)
    (ends : Except Failure Unit → Prop) : Prop :=
  match transaction with
  | some id => Staged id op calls ends
  | none => Immediate op calls

-- The conversations that there can be inside a transaction, and where the answer leaves the operation.
inductive Offered (policy : Policy) (id : TransactionId) (op : Operation) (phase : Phase) :
    List Asked → Prop where
  | silent : Offered policy id op phase []
  | unanswered (prepared : op.prepare true = .ok mutation) :
      Offered policy id op phase [⟨.submit (mutation.request (.staged id)), none⟩]
  | answered (prepared : op.prepare true = .ok mutation)
      (ends : Ends policy 1 (.submit (mutation.request (.staged id))) reply result)
      (complete : phase = .finished result) :
      Offered policy id op phase [⟨.submit (mutation.request (.staged id)), some reply⟩]

theorem Landing.shape {s : Section} (landing : Landing s address target) :
    address.shape = s.shape := by
  cases landing <;> simp [Address.shape, *]

variable {policy : Policy} {mutation : Mutation} {op : Operation}

theorem Retried.versioned (earlier : Retried policy mutation calls rounds) :
    ∀ a ∈ calls, a.call = .readVersion ∨
      ∃ version, a.call = .submit (mutation.request (.runtime version)) := by
  induction earlier with
  | start =>
    intro a absent
    cases absent
  | @again _ _ version earlier left ih =>
    intro a mem
    rcases List.mem_cons.mp mem with rfl | mem
    · exact .inr ⟨version, rfl⟩
    · rcases List.mem_cons.mp mem with rfl | older
      · exact .inl rfl
      · exact ih a older

theorem Spoken.versioned (spoken : Spoken policy mutation calls) :
    ∀ a ∈ calls, a.call = .readVersion ∨
      ∃ version, a.call = .submit (mutation.request (.runtime version)) := by
  intro a mem
  cases spoken with
  | retried earlier => exact earlier.versioned a mem
  | reading earlier =>
    rcases List.mem_cons.mp mem with rfl | older
    · exact .inl rfl
    · exact earlier.versioned a older
  | @submitting _ _ version _ earlier =>
    rcases List.mem_cons.mp mem with rfl | mem
    · exact .inr ⟨version, rfl⟩
    · rcases List.mem_cons.mp mem with rfl | older
      · exact .inl rfl
      · exact earlier.versioned a older

theorem Offered.asking {id : TransactionId} {phase : Phase}
    (prepared : op.prepare true = .ok mutation) (polls : Nat) :
    Offered policy id op phase (asking (.submit (mutation.request (.staged id))) polls []) := by
  cases polls with
  | zero => exact .silent
  | succ polls => exact .unanswered prepared

-- There is one call to make inside a transaction, and nothing before it.
theorem Asks.of_staged {id : TransactionId}
    (asks : Asks policy mutation (some id) calls call attempts) :
    calls = [] ∧ call = .submit (mutation.request (.staged id)) := by
  cases asks
  exact ⟨rfl, rfl⟩

namespace Standing

variable {transaction : Option TransactionId} {calls : List Asked} {phase : Phase}

-- An operation that is unfit to be sent has called nobody.
theorem silent_of_unfit (standing : Standing policy transaction op calls phase)
    (unfit : op.prepare transaction.isSome = .error reason) : calls = [] := by
  cases standing with
  | fresh => rfl
  | refused => rfl
  | _ prepared => cases unfit.symm.trans prepared

theorem immediate (standing : Standing policy none op calls phase) : Immediate op calls := by
  cases prepared : op.prepare false with
  | error reason =>
    have silent := standing.silent_of_unfit prepared
    subst silent
    exact ⟨fun _ absent => (List.not_mem_nil absent).elim, fun spoke => absurd rfl spoke⟩
  | ok mutation =>
    obtain ⟨-, permitted, landing, -, -, kind⟩ := Operation.prepare_ok prepared
    have runtime : op.kind.runtime = true := permitted.resolve_left Bool.false_ne_true
    have unindexed : op.kind.shape ≠ .indexedChild := by
      intro indexed
      rw [op.kind.runtime_of_indexed indexed] at runtime
      cases runtime
    refine ⟨fun a mem => ?_, fun _ => ⟨runtime, unindexed, landing.shape ▸ unindexed⟩⟩
    rcases (standing.spoken prepared).versioned a mem with reads | ⟨version, submits⟩
    · exact .inl reads
    · exact .inr ⟨_, version, submits, rfl, kind⟩

theorem offered {id : TransactionId} (standing : Standing policy (some id) op calls phase) :
    Offered policy id op phase calls := by
  cases standing with
  | fresh => exact .silent
  | refused => exact .silent
  | reading prepared asks => cases asks
  | overrun prepared asks => cases asks
  | pausing prepared earlier runtime => cases runtime
  | overlong prepared earlier runtime => cases runtime
  | submitting prepared asks =>
    obtain ⟨rfl, same⟩ := asks.of_staged
    cases same
    exact .asking prepared _
  | interrupted prepared asks =>
    obtain ⟨rfl, rfl⟩ := asks.of_staged
    exact .asking prepared _
  | answered prepared asks ends =>
    cases asks with
    | stage => exact .answered prepared ends rfl

theorem staged {id : TransactionId} (standing : Standing policy (some id) op calls phase) :
    Staged id op calls fun result => phase = .finished result := by
  cases standing.offered with
  | silent =>
    exact ⟨fun _ absent => (List.not_mem_nil absent).elim, Nat.zero_le _,
      fun _ _ absent => (List.not_mem_nil absent).elim⟩
  | unanswered prepared =>
    obtain ⟨-, -, -, -, -, kind⟩ := Operation.prepare_ok prepared
    refine ⟨fun a mem => ?_, Nat.le_refl _, fun request status mem => ?_⟩
    · rw [List.mem_singleton.mp mem]
      exact ⟨_, rfl, rfl, kind⟩
    · cases List.mem_singleton.mp mem
  | answered prepared ends complete =>
    obtain ⟨-, -, -, -, -, kind⟩ := Operation.prepare_ok prepared
    refine ⟨fun a mem => ?_, Nat.le_refl _, fun request status mem failure => ?_⟩
    · rw [List.mem_singleton.mp mem]
      exact ⟨_, rfl, rfl, kind⟩
    · cases List.mem_singleton.mp mem
      rw [complete]
      cases ends with
      | applied success => cases failure.symm.trans success
      | rejected => rfl
      | exhausted fresh => cases fresh

theorem keepsMode (standing : Standing policy transaction op calls phase) :
    KeepsMode transaction op calls fun result => phase = .finished result := by
  cases transaction with
  | none => exact standing.immediate
  | some id => exact standing.staged

end Standing

-- The order of the calls does not matter for the mode.
theorem KeepsMode.reverse {transaction : Option TransactionId} {calls : List Asked}
    {ends later : Except Failure Unit → Prop} (keeps : KeepsMode transaction op calls ends)
    (kept : ∀ result, ends result → later result) :
    KeepsMode transaction op calls.reverse later := by
  cases transaction with
  | none =>
    refine ⟨fun a mem => keeps.versioned a (List.mem_reverse.mp mem), fun spoke => ?_⟩
    exact keeps.allowed fun silent => spoke (List.reverse_eq_nil_iff.mpr silent)
  | some id =>
    refine ⟨fun a mem => keeps.queued a (List.mem_reverse.mp mem), ?_, ?_⟩
    · rw [List.length_reverse]
      exact keeps.once
    · exact fun request status mem failure =>
        kept _ (keeps.rejected request status (List.mem_reverse.mp mem) failure)

end Reconcile
