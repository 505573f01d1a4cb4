import Reconcile.Proofs.Submission.Backoff
import Reconcile.Proofs.Submission.Conflicts

namespace Reconcile

-- What it takes for arithmetic to leave its word after a number of submissions that all met with a
-- conflict, with retries left: no word counts one more of them, or the delay that is due now is
-- beyond all delays.
inductive Overflow (policy : Policy) (submitted : Nat) : Fault → Prop where
  | attempts (left : policy.exhausted submitted = false) (many : Word.count32 ≤ submitted + 1) :
      Overflow policy submitted .attempts
  | delay (left : policy.exhausted submitted = false)
      (beyond : policy.delay submitted draw = .error .delay) : Overflow policy submitted .delay

theorem Retried.exhausted {policy : Policy} {mutation : Mutation} {calls : List Asked}
    (earlier : Retried policy mutation calls rounds) : policy.exhausted rounds = false := by
  cases earlier with
  | start => simp [Policy.exhausted]
  | again earlier left => exact left

namespace Policy

-- How many submissions a policy lets a word count: all of them, if it bounds the retries below the
-- largest count there is.
def Countable (p : Policy) (submitted : Nat) : Prop :=
  (∃ retries ∈ p.maxRetries, retries.toNat + 1 < Word.count32) ∨ submitted + 1 < Word.count32

end Policy

theorem Overflow.absent {policy : Policy} (roomy : policy.Roomy)
    (countable : policy.Countable submitted) : ¬Overflow policy submitted fault := by
  rintro (⟨left, many⟩ | ⟨-, beyond⟩)
  · rcases countable with ⟨retries, bound, few⟩ | few
    · have allowed : submitted ≤ retries.toNat := by
        simpa [Policy.exhausted, Option.mem_def.mp bound] using left
      omega
    · omega
  · obtain ⟨delay, within⟩ := roomy.delay submitted _
    cases beyond.symm.trans within

namespace Execution

variable {context : Context} {transaction : Option TransactionId} {sight : Sight} {job : Job}
  {policy : Policy} {mutation : Mutation} {calls : List Asked} {fault : Fault}

-- A turn after which arithmetic has left its word is justified by the calls that it leaves.
def Turn.Overflows (policy : Policy) (job : Job) (calls : List Asked) (turn : Turn) : Prop :=
  ∀ fault, turn.phase = .broken fault →
    Overflow policy (submissions (hearAll job.position calls turn.entries)).length fault

theorem begin_overflows : Turn.Overflows policy job calls (begin job transaction) := by
  intro fault broken
  unfold begin at broken
  split at broken <;> cases broken

theorem finish_overflows (staged : Bool) (result : Except Failure Unit) (before : List Entry) :
    Turn.Overflows policy job calls (finish job staged result before) := nofun

theorem afterRead_overflows (asks : Asks policy mutation transaction calls .readVersion attempts)
    (polls : Nat) (reply : Reply) :
    Turn.Overflows policy job (asking .readVersion polls calls)
      (afterRead job mutation attempts (.polled job .readVersion polls (some reply)) reply) := by
  have heard := hear_asking job .readVersion polls (some reply) calls nofun
  cases reply with
  | error error => exact finish_overflows false _ _
  | ok version =>
    intro fault broken
    by_cases room : attempts + 1 < attemptLimit
    · simp only [afterRead, if_pos room] at broken
      cases broken
    · simp only [afterRead, if_neg room] at broken ⊢
      cases broken
      cases asks with
      | read earlier =>
        simp only [hearAll_cons, hearAll_nil, heard, submissions_read, earlier.submissions_length]
        exact .attempts earlier.exhausted (Nat.le_of_not_lt room)

theorem afterConflict_overflows
    (asks : Asks policy mutation transaction calls (.submit request) attempts) (sight : Sight)
    (version polls : Nat) :
    Turn.Overflows policy job (asking (.submit request) polls calls)
      (afterConflict job policy sight request version attempts
        (.polled job (.submit request) polls (some (.ok conflictStatus)))) := by
  have heard := hear_asking job (.submit request) polls (some (.ok conflictStatus)) calls nofun
  unfold afterConflict
  dsimp only
  split
  · exact finish_overflows false _ _
  · rename_i left
    split
    · rename_i beyond
      intro fault broken
      cases broken
      obtain ⟨rfl, -⟩ := Backoff.delay_error beyond
      rw [← asks.conflicts_length.2] at left beyond
      simp only [List.cons_append, hearAll_cons, heard]
      exact .delay (Bool.eq_false_iff.mpr left) beyond
    · nofun
    · nofun

theorem afterSubmit_overflows
    (asks : Asks policy mutation transaction calls (.submit request) attempts) (sight : Sight)
    (polls : Nat) (reply : Reply) :
    Turn.Overflows policy job (asking (.submit request) polls calls)
      (afterSubmit job policy sight request attempts
        (.polled job (.submit request) polls (some reply)) reply) := by
  unfold afterSubmit
  split
  · exact finish_overflows _ _ _
  · split
    · exact finish_overflows true _ _
    · split
      · exact finish_overflows false _ _
      · split
        · rename_i stale
          subst stale
          exact afterConflict_overflows asks sight _ polls
        · exact finish_overflows false _ _

-- Whatever an operation gets to see, arithmetic leaves its word for one of the two reasons only.
theorem turn_overflows {e : Execution}
    (standing : Standing context.policy transaction e.job.operation calls e.phase)
    (held : ∀ fault, e.phase = .broken fault →
      Overflow context.policy (submissions calls).length fault) :
    Turn.Overflows context.policy e.job calls (e.turn context transaction sight) := by
  obtain ⟨job, phase⟩ := e
  cases standing with
  | fresh => exact begin_overflows
  | refused | answered | interrupted =>
    intro fault broken
    cases broken
  | overrun | overlong => exact held
  | @reading _ _ _ polls prepared asks =>
    cases seen : sight.progress with
    | waiting wake =>
      simp only [turn, seen]
      intro fault broken
      cases broken
    | ready outcome =>
      cases outcome with
      | error interruption =>
        simp only [turn, seen]
        exact finish_overflows _ _ _
      | ok reply =>
        simp only [turn, seen]
        exact afterRead_overflows asks polls reply
  | @submitting _ _ _ _ polls prepared asks =>
    cases seen : sight.progress with
    | waiting wake =>
      simp only [turn, seen]
      intro fault broken
      cases broken
    | ready outcome =>
      cases outcome with
      | error interruption =>
        simp only [turn, seen]
        exact finish_overflows _ _ _
      | ok reply =>
        simp only [turn, seen]
        exact afterSubmit_overflows asks sight polls reply
  | pausing =>
    cases seen : sight.progress with
    | waiting wake =>
      simp only [turn, seen]
      intro fault broken
      cases broken
    | ready outcome =>
      cases outcome with
      | error interruption =>
        simp only [turn, seen]
        exact finish_overflows _ _ _
      | ok reply =>
        simp only [turn, seen]
        intro fault broken
        cases broken

end Execution

end Reconcile
