import Mathlib.Tactic.Common
import Reconcile.Submission.Policy

namespace Reconcile

namespace Backoff

theorem saturate_eq (n : Nat) : saturate n = min n (Word.count64 - 1) := by
  unfold saturate Word.count64
  split <;> omega

-- No power that is left out would fit the word.
theorem factor_eq (attempt : Nat) :
    factor attempt = min (Nat.pow 2 (attempt - 1)) (Word.count64 - 1) := by
  rw [factor, saturate_eq]
  rcases Nat.le_total (attempt - 1) 64 with small | large
  · rw [Nat.min_eq_left small]
  · have beyond : Nat.pow 2 64 ≤ Nat.pow 2 (attempt - 1) := Nat.pow_le_pow_right Nat.two_pos large
    have whole : Nat.pow 2 64 = Word.count64 := rfl
    rw [Nat.min_eq_right large]
    omega

-- The fixed part of a delay as if nothing were ever cut off before its end.
theorem capped_eq (attempt : Nat) (base max : UInt64) :
    capped attempt base max = min (base.toNat * Nat.pow 2 (attempt - 1)) max.toNat := by
  have largest : max.toNat ≤ Word.count64 - 1 := Nat.le_pred_of_lt max.toNat_lt
  rw [capped, saturate_eq, factor_eq]
  rcases Nat.le_total (Nat.pow 2 (attempt - 1)) (Word.count64 - 1) with small | large
  · rw [Nat.min_eq_left small]
    omega
  · rw [Nat.min_eq_right large]
    rcases Nat.eq_zero_or_pos base.toNat with none | some
    · rw [none, Nat.zero_mul, Nat.zero_mul]
      omega
    · have product := Nat.le_mul_of_pos_left (Word.count64 - 1) some
      have exact' := Nat.mul_le_mul_left base.toNat large
      omega

theorem capped_le (attempt : Nat) (base max : UInt64) : capped attempt base max ≤ max.toNat :=
  Nat.min_le_right ..

-- From the attempt on at which the factor fills the word, the delay is the largest one.
theorem capped_last {base : UInt64} (some : base ≠ 0) (max : UInt64) :
    capped 65 base max = max.toNat := by
  have positive : 0 < base.toNat := Nat.pos_of_ne_zero fun zero => some (UInt64.toNat_inj.mp zero)
  have product := Nat.mul_le_mul_right Word.count64 positive
  have whole : Nat.pow 2 (65 - 1) = Word.count64 := rfl
  have largest : max.toNat < Word.count64 := max.toNat_lt
  rw [capped_eq, whole]
  omega

theorem jitter_lt (fixed : Nat) (draw : UInt64) :
    jitter fixed draw = 0 ∨ jitter fixed draw < fixed / 10 := by
  unfold jitter
  split
  · exact .inr (Nat.mod_lt _ ‹_›)
  · exact .inl rfl

theorem delay_error {base max draw : UInt64} (beyond : delay attempt base max draw = .error fault) :
    fault = .delay ∧ base ≠ 0 ∧
      Word.count64 ≤ capped attempt base max + jitter (capped attempt base max) draw := by
  unfold delay at beyond
  split at beyond
  · cases beyond
  · rename_i paused
    dsimp only at beyond
    split at beyond
    · cases beyond
    · cases beyond
      exact ⟨rfl, fun zero => paused (.inr zero), Nat.le_of_not_lt ‹_›⟩

end Backoff

namespace Policy

-- The largest delay leaves room for its random part, which is less than a tenth of it.
def Roomy (p : Policy) : Prop :=
  p.baseMs = 0 ∨ p.maxMs.toNat + p.maxMs.toNat / 10 ≤ Word.count64

instance (p : Policy) : Decidable p.Roomy := inferInstanceAs (Decidable (_ ∨ _))

variable {p : Policy}

-- The largest delay of a signed word leaves room for the random part of every delay.
theorem roomy_of_small (small : p.maxMs.toNat < Word.half64) : p.Roomy := by
  refine .inr ?_
  unfold Word.half64 at small
  unfold Word.count64
  omega

theorem Roomy.delay (roomy : p.Roomy) (attempt : Nat) (draw : UInt64) :
    ∃ delay, p.delay attempt draw = .ok delay := by
  cases outcome : p.delay attempt draw with
  | ok delay => exact ⟨delay, rfl⟩
  | error fault =>
    obtain ⟨-, paused, beyond⟩ := Backoff.delay_error outcome
    have limit := Backoff.capped_le attempt p.baseMs p.maxMs
    have largest : p.maxMs.toNat < Word.count64 := p.maxMs.toNat_lt
    have room := roomy.resolve_left paused
    rcases Backoff.jitter_lt (Backoff.capped attempt p.baseMs p.maxMs) draw with none | less
    · omega
    · omega

theorem delay_ok (small : p.maxMs.toNat < Word.half64) (attempt : Nat) (draw : UInt64) :
    ∃ delay, p.delay attempt draw = .ok delay := (roomy_of_small small).delay attempt draw

-- Otherwise the largest draw takes the largest delay out of its word.
theorem delay_beyond (tight : ¬p.Roomy) : ∃ draw, p.delay 65 draw = .error .delay := by
  obtain ⟨paused, narrow⟩ := not_or.mp tight
  have limit : p.maxMs.toNat < Word.count64 := p.maxMs.toNat_lt
  have tenth : 0 < p.maxMs.toNat / 10 := by omega
  refine ⟨p.maxMs / 10 - 1, ?_⟩
  have random : Backoff.jitter p.maxMs.toNat (p.maxMs / 10 - 1) = p.maxMs.toNat / 10 - 1 := by
    have drawn : (p.maxMs / 10 - 1).toNat = p.maxMs.toNat / 10 - 1 :=
      UInt64.toNat_sub_of_le _ _ tenth
    rw [Backoff.jitter, if_pos tenth, drawn, Nat.mod_eq_of_lt (Nat.sub_lt tenth Nat.one_pos)]
  have waits : ¬(65 = 0 ∨ p.baseMs = 0) := by
    rintro (zero | zero)
    · cases zero
    · exact paused zero
  rw [Policy.delay, Backoff.delay, if_neg waits, Backoff.capped_last paused]
  dsimp only
  rw [random, if_neg (by omega)]

theorem roomy_iff : p.Roomy ↔ ∀ attempt draw, ∃ delay, p.delay attempt draw = .ok delay := by
  constructor
  · exact Roomy.delay
  · intro every
    by_contra tight
    obtain ⟨draw, beyond⟩ := delay_beyond tight
    obtain ⟨delay, within⟩ := every 65 draw
    cases beyond.symm.trans within

end Policy
end Reconcile
