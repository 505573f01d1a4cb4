import Reconcile.Proofs.Submission.Mode

namespace Reconcile

-- Answers, newest first, that depend on nothing but the calls before.
def Follows (answer : List Asked → Call → Reply) : List Asked → Prop
  | [] => True
  | a :: calls => (∀ reply, a.reply = some reply → reply = answer calls a.call) ∧ Follows answer calls

-- Calls, newest first, each made after the one before was answered.
inductive Conversation (policy : Policy) (mutation : Mutation)
    (transaction : Option TransactionId) : List Asked → Prop where
  | silent : Conversation policy mutation transaction []
  | answered (earlier : Conversation policy mutation transaction calls)
      (asks : Asks policy mutation transaction calls call attempts) :
      Conversation policy mutation transaction (⟨call, some reply⟩ :: calls)

variable {policy : Policy} {mutation : Mutation} {transaction : Option TransactionId}
  {calls calls' : List Asked} {call call' : Call} {result result' : Except Failure Unit}

-- What was said decides what is asked next.
theorem Asks.unique (one : Asks policy mutation transaction calls call attempts)
    (other : Asks policy mutation transaction calls call' attempts') :
    call = call' ∧ attempts = attempts' := by
  cases one with
  | stage =>
    cases other
    exact ⟨rfl, rfl⟩
  | read earlier =>
    cases other with
    | read earlier' => exact ⟨rfl, earlier.submissions_length.symm.trans earlier'.submissions_length⟩
    | submit => cases earlier
  | submit earlier =>
    cases other with
    | read earlier' => cases earlier'
    | submit earlier' =>
      have rounds := earlier.submissions_length.symm.trans earlier'.submissions_length
      exact ⟨rfl, congrArg (· + 1) rounds⟩

theorem Retried.conversation (earlier : Retried policy mutation calls rounds) :
    Conversation policy mutation none calls := by
  induction earlier with
  | start => exact .silent
  | again earlier left ih => exact .answered (.answered ih (.read earlier)) (.submit earlier)

theorem Asks.conversation (asks : Asks policy mutation transaction calls call attempts) :
    Conversation policy mutation transaction calls := by
  cases asks with
  | stage => exact .silent
  | read earlier => exact earlier.conversation
  | submit earlier => exact .answered earlier.conversation (.read earlier)

-- Two conversations of one length are the same where the answers follow from what was said.
theorem Conversation.unique {answer : List Asked → Call → Reply}
    (one : Conversation policy mutation transaction calls)
    (other : Conversation policy mutation transaction calls') (follows : Follows answer calls)
    (follows' : Follows answer calls') (length : calls.length = calls'.length) :
    calls = calls' := by
  induction one generalizing calls' with
  | silent => exact (List.length_eq_zero_iff.mp length.symm).symm
  | answered earlier asks ih =>
    cases other with
    | silent => cases length
    | answered earlier' asks' =>
      obtain ⟨given, follows⟩ := follows
      obtain ⟨given', follows'⟩ := follows'
      cases ih earlier' follows follows' (Nat.succ.inj length)
      cases (asks.unique asks').1
      rw [given _ rfl, given' _ rfl]

theorem Ends.unique (one : Ends policy attempts call reply result)
    (other : Ends policy attempts call reply result') : result = result' := by
  cases one with
  | transport =>
    cases other
    rfl
  | applied success =>
    cases other with
    | applied => rfl
    | rejected failure => cases failure.symm.trans success
    | exhausted => cases isSuccess_conflictStatus.symm.trans success
  | rejected failure settled =>
    cases other with
    | applied success => cases failure.symm.trans success
    | rejected => rfl
    | exhausted fresh =>
      rcases settled with staged | other
      · cases fresh.symm.trans staged
      · exact absurd rfl other
  | exhausted fresh used =>
    cases other with
    | applied success => cases isSuccess_conflictStatus.symm.trans success
    | rejected failure settled =>
      rcases settled with staged | other
      · cases fresh.symm.trans staged
      · exact absurd rfl other
    | exhausted => rfl

-- Nothing is asked after the end.
theorem Ends.last (ends : Ends policy attempts call reply result)
    (asks : Asks policy mutation transaction calls call attempts) :
    ¬Asks policy mutation transaction (⟨call, some reply⟩ :: calls) call' attempts' := by
  intro next
  cases next with
  | read again =>
    cases again with
    | again earlier left =>
      obtain ⟨-, same⟩ := asks.unique (.submit earlier)
      subst same
      cases ends with
      | applied success => cases isSuccess_conflictStatus.symm.trans success
      | rejected failure settled =>
        rcases settled with staged | other
        · cases staged
        · exact absurd rfl other
      | exhausted fresh used => cases left.symm.trans used
  | submit earlier => cases ends

-- The calls of an operation that has been answered to its end.
def Concludes (policy : Policy) (mutation : Mutation) (transaction : Option TransactionId)
    (calls : List Asked) (result : Except Failure Unit) : Prop :=
  ∃ call reply earlier attempts, calls = ⟨call, some reply⟩ :: earlier ∧
    Asks policy mutation transaction earlier call attempts ∧
    Ends policy attempts call reply result

namespace Concludes

variable {answer : List Asked → Call → Reply}

theorem conversation (concludes : Concludes policy mutation transaction calls result) :
    Conversation policy mutation transaction calls := by
  obtain ⟨call, reply, earlier, attempts, rfl, asks, -⟩ := concludes
  exact .answered asks.conversation asks

theorem last (concludes : Concludes policy mutation transaction calls result) :
    ¬Asks policy mutation transaction calls call attempts := by
  obtain ⟨_, _, _, _, rfl, asks, ends⟩ := concludes
  exact ends.last asks

-- No conversation goes on from where another has ended.
theorem eq_of_length_le (concludes : Concludes policy mutation transaction calls result)
    (follows : Follows answer calls)
    (other : Conversation policy mutation transaction calls') (follows' : Follows answer calls')
    (length : calls.length ≤ calls'.length) : calls = calls' := by
  induction other with
  | silent => exact List.length_eq_zero_iff.mp (Nat.le_zero.mp length)
  | @answered calls' call attempts reply earlier asks ih =>
    rcases Nat.lt_or_ge calls'.length calls.length with more | fewer
    · exact concludes.conversation.unique (.answered earlier asks) follows follows'
        (Nat.le_antisymm length more)
    · cases ih follows'.2 fewer
      exact absurd asks concludes.last

theorem unique (one : Concludes policy mutation transaction calls result)
    (other : Concludes policy mutation transaction calls' result') (follows : Follows answer calls)
    (follows' : Follows answer calls') : calls = calls' ∧ result = result' := by
  have same : calls = calls' := by
    rcases Nat.le_total calls.length calls'.length with fewer | more
    · exact one.eq_of_length_le follows other.conversation follows' fewer
    · exact (other.eq_of_length_le follows' one.conversation follows more).symm
  subst same
  refine ⟨rfl, ?_⟩
  obtain ⟨call, reply, earlier, attempts, rfl, asks, ends⟩ := one
  obtain ⟨call', reply', earlier', attempts', same, asks', ends'⟩ := other
  cases same
  obtain ⟨-, rfl⟩ := asks.unique asks'
  exact ends.unique ends'

end Concludes

namespace Standing

variable {op : Operation}

theorem concludes (standing : Standing policy transaction op calls (.finished result))
    (prepared : op.prepare transaction.isSome = .ok mutation)
    (ran : ∀ i, result ≠ .error (.context i)) :
    Concludes policy mutation transaction calls result := by
  cases standing with
  | refused unfit => cases unfit.symm.trans prepared
  | answered ready asks ends =>
    cases ready.symm.trans prepared
    exact ⟨_, _, _, _, rfl, asks, ends⟩
  | interrupted => exact absurd rfl (ran _)

theorem refused_of_unfit {reason : Failure}
    (standing : Standing policy transaction op calls (.finished result))
    (unfit : op.prepare transaction.isSome = .error reason) :
    calls = [] ∧ result = .error reason := by
  refine ⟨standing.silent_of_unfit unfit, ?_⟩
  rcases standing.unfit unfit with fresh | same
  · cases fresh
  · cases same
    rfl

-- What an operation asks and how it ends is decided by the answers to it.
theorem determined {answer : List Asked → Call → Reply}
    (one : Standing policy transaction op calls (.finished result))
    (other : Standing policy transaction op calls' (.finished result'))
    (ran : ∀ i, result ≠ .error (.context i)) (ran' : ∀ i, result' ≠ .error (.context i))
    (follows : Follows answer calls) (follows' : Follows answer calls') :
    calls = calls' ∧ result = result' := by
  cases prepared : op.prepare transaction.isSome with
  | error reason =>
    obtain ⟨rfl, rfl⟩ := one.refused_of_unfit prepared
    obtain ⟨rfl, rfl⟩ := other.refused_of_unfit prepared
    exact ⟨rfl, rfl⟩
  | ok mutation =>
    exact (one.concludes prepared ran).unique (other.concludes prepared ran') follows follows'

end Standing
end Reconcile
