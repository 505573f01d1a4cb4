import Reconcile.Proofs.Submission.Guard
import Reconcile.World.Basic

namespace Reconcile

theorem Moment.pause_eq_ready (now : Moment) (due : Nat) :
    now.pause due = .ready () ↔ due ≤ now.clock := by
  simp [pause]

namespace World

variable {σ : Type} {transport : Transport σ} {context : Context}

-- A pause as something that is waited for: its polls change nothing, and everybody waits between
-- them.
def pausing (transport : Transport σ) (context : Context) (due : Nat) : Awaited (World σ) Unit where
  moment := moment
  poll _ w := (w.moment.pause due, w)
  between wake := rest transport context [wake]

theorem pause_eq_await (due polls count : Nat) (w : World σ) :
    pause transport context due w polls =
      context.await (pausing transport context due) polls count w := by
  induction polls generalizing count w with
  | zero => rfl
  | succ polls ih =>
    rw [pause, Context.await, Context.guard, Context.guard]
    simp only [pausing]
    cases context.interruption? w.moment with
    | some interruption => rfl
    | none =>
      simp only [bind, StateT.bind]
      cases w.moment.pause due with
      | ready value => rfl
      | waiting wake => exact ih (count + 1) (rest transport context [wake] w)

-- A pause is over at the first poll at which its time has come, and is cut short at the first one
-- at which the context is cancelled or late, whichever is earlier. At the same poll the context
-- comes first.
theorem pause_ends_iff (transport : Transport σ) (context : Context) (due : Nat) (w : World σ)
    (result : Except Interruption Unit) (after : World σ) :
    (∃ polls, pause transport context due w polls = some (result, after)) ↔
      ∃ k, (pausing transport context due).Begins 0 w k after ∧
        (pausing transport context due).Calm context 0 w k ∧
        match result with
        | .ok _ => context.Undisturbed after.moment ∧ due ≤ after.clock
        | .error interruption => context.Disturbed after.moment interruption := by
  have same : (∃ polls, pause transport context due w polls = some (result, after)) ↔
      context.Ends (pausing transport context due) 0 w result after := by
    simp only [Context.Ends, pause_eq_await due _ 0]
  rw [same, Context.ends_iff]
  constructor
  · intro concludes
    cases concludes with
    | @returned k t value _ begins calm ready =>
      obtain ⟨passed, rfl⟩ := Prod.mk.inj ready
      obtain ⟨before, free⟩ := (Awaited.calm_succ_iff begins).mp calm
      exact ⟨k, begins, before, free, (Moment.pause_eq_ready _ due).mp passed⟩
    | @interrupted k _ interruption begins calm stopped => exact ⟨k, begins, calm, stopped⟩
  · rintro ⟨k, begins, calm, why⟩
    cases result with
    | ok value =>
      obtain ⟨free, passed⟩ := why
      refine .returned begins ((Awaited.calm_succ_iff begins).mpr ⟨calm, free⟩) ?_
      exact Prod.ext ((Moment.pause_eq_ready _ due).mpr passed) rfl
    | error interruption => exact .interrupted begins calm why

end World
end Reconcile
