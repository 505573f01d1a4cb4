import Reconcile.Signals.Watcher

namespace Reconcile
namespace Watcher

variable {w : Watcher}

theorem after_cons (w : Watcher) (stop : Stop) (stops : List Stop) :
    w.after (stop :: stops) = (w.step stop).after stops := rfl

theorem after_append (w : Watcher) (stops later : List Stop) :
    w.after (stops ++ later) = (w.after stops).after later := List.foldl_append

theorem exit_eq_some : w.exit? = some forcedExit ↔ w.watch = .forced := by
  simp [exit?]

theorem exit_eq_none : w.exit? = none ↔ w.watch ≠ .forced := by
  simp [exit?]

-- A process that is forced to exit stays so, and nothing else can happen to it.
theorem after_forced (forced : w.watch = .forced) (stops : List Stop) : w.after stops = w := by
  induction stops with
  | nil => rfl
  | cons stop stops ih =>
    have still : w.step stop = w := by rw [step.eq_def, forced]
    rw [after_cons, still, ih]

-- Whoever has finished watching never comes back to it.
theorem after_over (finished : w.watch = .over) (stops : List Stop) :
    (w.after stops).watch = .over := by
  induction stops generalizing w with
  | nil => exact finished
  | cons stop stops ih =>
    rw [after_cons]
    refine ih ?_
    cases stop <;> simp [step, finished]

-- After the first signal only the signals count.
theorem after_warned (warned : w.watch = .warned) (stops : List Stop) :
    (w.after stops).watch = if .signal ∈ stops then .forced else .warned := by
  induction stops generalizing w with
  | nil => simp [after, warned]
  | cons stop stops ih =>
    rw [after_cons]
    cases stop with
    | signal =>
      have forced : (w.step .signal).watch = .forced := by simp [step, warned]
      rw [after_forced forced, forced, if_pos List.mem_cons_self]
    | cancellation =>
      have still : (w.step .cancellation).watch = .warned := by simp [step, warned]
      rw [ih still]
      simp

-- What is cancelled stays cancelled.
theorem cancelled_after (given : w.cancelled = true) (stops : List Stop) :
    (w.after stops).cancelled = true := by
  induction stops generalizing w with
  | nil => exact given
  | cons stop stops ih =>
    rw [after_cons]
    refine ih ?_
    cases watch : w.watch <;> cases stop <;> simp [step, watch, given]

-- How far the watch has come, read off the events alone.
def reached : List Stop → Watch
  | [] => .armed
  | .cancellation :: _ => .over
  | .signal :: later => if .signal ∈ later then .forced else .warned

theorem watch_after (stops : List Stop) : ((start false).after stops).watch = reached stops := by
  cases stops with
  | nil => rfl
  | cons stop later =>
    rw [after_cons]
    cases stop with
    | signal => exact after_warned rfl later
    | cancellation => exact after_over rfl later

theorem cancelled_iff (stops : List Stop) :
    ((start false).after stops).cancelled = true ↔ stops ≠ [] := by
  cases stops with
  | nil => simp [after, start]
  | cons stop later =>
    have given : ((start false).step stop).cancelled = true := by cases stop <;> rfl
    rw [after_cons]
    simp [cancelled_after given later]

theorem reached_forced_iff (stops : List Stop) :
    reached stops = .forced ↔ stops.head? = some .signal ∧ 2 ≤ stops.count .signal := by
  cases stops with
  | nil => simp [reached]
  | cons stop later =>
    cases stop with
    | cancellation => simp [reached]
    | signal =>
      have second : .signal ∈ later ↔ 1 ≤ later.count .signal := List.one_le_count_iff.symm
      by_cases again : .signal ∈ later
      · simp [reached, again, second.mp again]
      · simp [reached, again]

theorem exit_iff (stops : List Stop) : ((start false).after stops).exit? = some forcedExit ↔
    stops.head? = some .signal ∧ 2 ≤ stops.count .signal := by
  rw [exit_eq_some, watch_after, reached_forced_iff]

theorem no_exit_iff (stops : List Stop) : ((start false).after stops).exit? = none ↔
    ¬(stops.head? = some .signal ∧ 2 ≤ stops.count .signal) := by
  rw [exit_eq_none, watch_after, ← reached_forced_iff]

-- The exit is forced by the second signal and by nothing else, if the first event was a signal.
theorem exit_step_iff (stops : List Stop) (stop : Stop) :
    ((start false).after stops).exit? = none ∧
        (((start false).after stops).step stop).exit? = some forcedExit ↔
      stop = .signal ∧ stops.head? = some .signal ∧ stops.count .signal = 1 := by
  have next : ((start false).after stops).step stop = (start false).after (stops ++ [stop]) :=
    (after_append (start false) stops [stop]).symm
  rw [next, no_exit_iff, exit_iff]
  cases stops with
  | nil => cases stop <;> simp
  | cons first later =>
    rw [List.count_append]
    have one : [stop].count .signal = if stop = .signal then 1 else 0 := by cases stop <;> rfl
    rw [one]
    constructor
    · rintro ⟨not_yet, first_signal, twice⟩
      have fewer : ¬2 ≤ (first :: later).count .signal := fun twice =>
        not_yet ⟨first_signal, twice⟩
      split at twice
      · exact ⟨‹_›, first_signal, by omega⟩
      · omega
    · rintro ⟨rfl, first_signal, once⟩
      refine ⟨?_, first_signal, by simp [once]⟩
      rintro ⟨-, twice⟩
      omega

-- Whatever signals and cancellations come, and in whatever order: any of them cancels; the second
-- signal ends the process, but only if a signal came first; and if a cancellation came first,
-- nobody watches any more.
theorem second_signal_forces_exit (stops : List Stop) :
    let w := (start false).after stops
    (w.cancelled = true ↔ stops ≠ []) ∧
      (w.exit? = some 130 ↔ stops.head? = some .signal ∧ 2 ≤ stops.count .signal) ∧
      (∀ stop, w.exit? = none ∧ (w.step stop).exit? = some 130 ↔
        stop = .signal ∧ stops.head? = some .signal ∧ stops.count .signal = 1) ∧
      (stops.head? = some .cancellation →
        w.watching = false ∧ ∀ later, (w.after later).exit? = none) := by
  intro w
  refine ⟨cancelled_iff stops, exit_iff stops, exit_step_iff stops, fun first => ?_⟩
  have finished : w.watch = .over := by
    cases stops with
    | nil => cases first
    | cons stop later =>
      cases first
      exact after_over rfl later
  refine ⟨by simp [watching, finished], fun later => ?_⟩
  rw [exit_eq_none, after_over finished later]
  exact Watch.noConfusion

example : ((start false).after [.signal, .cancellation, .cancellation, .signal]).exit? =
    some 130 := by decide

end Watcher
end Reconcile
