import Reconcile.Proofs.Submission.Backoff

namespace Reconcile.Backoff

-- The fixed part of a delay as it is meant, in numbers without end: the base, doubled with every
-- attempt after the first, up to the largest delay.
def doubled (attempt base max : Nat) : Nat := min (base * Nat.pow 2 (attempt - 1)) max

-- A delay with the given fixed part: from ten milliseconds on it is drawn from a range that starts
-- there and is a tenth of it long.
structure Spread (fixed wait : Nat) : Prop where
  least : fixed ≤ wait
  short : fixed < 10 → wait = fixed
  long : 10 ≤ fixed → wait < fixed + fixed / 10

section doubled

variable {attempt later base base' max max' : Nat}

theorem product_mono (order : attempt ≤ later) (bases : base ≤ base') :
    base * Nat.pow 2 (attempt - 1) ≤ base' * Nat.pow 2 (later - 1) := by
  have powers : Nat.pow 2 (attempt - 1) ≤ Nat.pow 2 (later - 1) :=
    Nat.pow_le_pow_right Nat.two_pos (Nat.sub_le_sub_right order 1)
  exact Nat.mul_le_mul bases powers

theorem doubled_mono (order : attempt ≤ later) (bases : base ≤ base') (largest : max ≤ max') :
    doubled attempt base max ≤ doubled later base' max' := by
  have products := product_mono order bases
  unfold doubled
  omega

-- Once the largest delay is reached it stays.
theorem doubled_of_reached (reached : max ≤ base * Nat.pow 2 (attempt - 1))
    (order : attempt ≤ later) : doubled later base max = max :=
  Nat.min_eq_right (Nat.le_trans reached (product_mono order base.le_refl))

end doubled

theorem spread_jitter (fixed : Nat) (draw : UInt64) : Spread fixed (fixed + jitter fixed draw) := by
  refine ⟨Nat.le_add_right .., fun short => ?_, fun long => ?_⟩
  · have narrow : ¬0 < fixed / 10 := by omega
    rw [jitter, if_neg narrow, Nat.add_zero]
  · rcases jitter_lt fixed draw with none | some
    · omega
    · omega

theorem Spread.below {fixed wait : Nat} (spread : Spread fixed wait) (some : 0 < fixed) :
    10 * wait < 11 * fixed := by
  rcases Nat.lt_or_ge fixed 10 with short | long
  · have exact' := spread.short short
    omega
  · have less := spread.long long
    omega

variable {attempt : Nat} {base max draw : UInt64} {wait : Nat}

theorem delay_of_unmoved (unmoved : attempt = 0 ∨ base = 0) :
    delay attempt base max draw = .ok 0 := by
  rw [delay, if_pos unmoved]

-- Saturation is never seen in a delay.
theorem spread_of_delay (moved : ¬(attempt = 0 ∨ base = 0))
    (within : delay attempt base max draw = .ok wait) :
    Spread (doubled attempt base.toNat max.toNat) wait := by
  have fixed : capped attempt base max = doubled attempt base.toNat max.toNat := capped_eq ..
  rw [delay, if_neg moved, fixed] at within
  dsimp only at within
  split at within
  · cases within
    exact spread_jitter ..
  · cases within

-- The law of the delays, for a largest delay that a document can state: none before the first
-- retry or without a base; else the one that is meant, spread by less than a tenth. What is meant
-- grows with the attempts, the base and the largest delay, and stays at the latter once it is
-- there.
theorem backoff_law (base max : UInt64) (small : max.toNat < Word.half64) :
    (∀ attempt draw, ∃ wait, delay attempt base max draw = .ok wait ∧
      (attempt = 0 ∨ base = 0 → wait = 0) ∧
      (attempt ≠ 0 → base ≠ 0 →
        capped attempt base max = doubled attempt base.toNat max.toNat ∧
          Spread (doubled attempt base.toNat max.toNat) wait)) ∧
    (∀ (attempt later : Nat) (base' max' : UInt64), attempt ≤ later → base ≤ base' → max ≤ max' →
      doubled attempt base.toNat max.toNat ≤ doubled later base'.toNat max'.toNat) ∧
    ∀ attempt later draw wait, max.toNat ≤ base.toNat * Nat.pow 2 (attempt - 1) → attempt ≠ 0 →
      attempt ≤ later → delay later base max draw = .ok wait →
      max.toNat ≤ wait ∧ (max.toNat < 10 → wait = max.toNat) ∧
        (0 < max.toNat → 10 * wait < 11 * max.toNat) := by
  refine ⟨fun attempt draw => ?_, fun attempt later base' max' order bases largest => ?_, ?_⟩
  · obtain ⟨wait, within⟩ := Policy.delay_ok (p := ⟨none, base, max⟩) small attempt draw
    refine ⟨wait, within, fun unmoved => ?_, fun tried paused => ⟨capped_eq .., ?_⟩⟩
    · cases (delay_of_unmoved unmoved).symm.trans within
      rfl
    · exact spread_of_delay (not_or.mpr ⟨tried, paused⟩) within
  · exact doubled_mono order bases largest
  · intro attempt later draw wait reached tried order within
    by_cases unmoved : later = 0 ∨ base = 0
    · -- Without a base only a largest delay of nothing can be reached.
      cases (delay_of_unmoved unmoved).symm.trans within
      have none : max.toNat = 0 := by
        rcases unmoved with early | rfl
        · omega
        · simpa using reached
      omega
    · have spread := spread_of_delay unmoved within
      rw [doubled_of_reached reached order] at spread
      exact ⟨spread.least, spread.short, spread.below⟩

-- A hundred milliseconds reach a second in the fifth attempt.
theorem second_reached :
    (1000 : UInt64).toNat < Word.half64 ∧ 1000 ≤ 100 * Nat.pow 2 (5 - 1) ∧
      ∃ wait, delay 30 100 1000 7 = .ok wait ∧ 1000 ≤ wait ∧ 10 * wait < 11000 := by
  have small : (1000 : UInt64).toNat < Word.half64 := by decide
  obtain ⟨delays, -, reaching⟩ := backoff_law 100 1000 small
  obtain ⟨wait, within, -⟩ := delays 30 7
  obtain ⟨least, -, below⟩ :=
    reaching 5 30 7 wait (by decide) (by decide) (by decide) within
  exact ⟨small, by decide, wait, within, least, below (by decide)⟩

end Reconcile.Backoff
