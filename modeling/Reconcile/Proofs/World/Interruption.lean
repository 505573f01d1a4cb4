import Reconcile.Proofs.Batch.Interruption
import Reconcile.Proofs.World.Acknowledgement

namespace Reconcile

variable {σ : Type}

namespace World

variable {context : Context} {w : World σ}

-- Nobody is to wait any longer.
def Stopped (context : Context) (w : World σ) : Prop :=
  w.cancelled = true ∨ ∃ deadline, context.deadline = some deadline ∧ deadline ≤ w.clock

-- What somebody hears who waits nevertheless.
def reason (w : World σ) : Interruption := if w.cancelled then .cancelled else .deadlineExceeded

theorem stopped_iff : Stopped context w ↔ context.interruption? w.moment = some w.reason := by
  unfold Stopped Context.interruption? reason moment
  cases w.cancelled with
  | true => simp
  | false =>
    cases context.deadline with
    | none => simp
    | some deadline => simp

theorem stopped_of_interruption (found : context.interruption? w.moment = some interruption) :
    Stopped context w ∧ interruption = w.reason := by
  have stopped : Stopped context w := by
    unfold Context.interruption? at found
    split at found
    · exact .inl ‹_›
    · split at found
      · rename_i passed
        obtain ⟨deadline, bound, late⟩ := Option.any_eq_true _ _ |>.mp passed
        exact .inr ⟨deadline, bound, of_decide_eq_true late⟩
      · cases found
  exact ⟨stopped, Option.some.inj (found.symm.trans (stopped_iff.mp stopped))⟩

theorem Stopped.mono {later : World σ} (stopped : Stopped context w)
    (clock : w.clock ≤ later.clock) (cancelled : w.cancelled = true → later.cancelled = true) :
    Stopped context later := by
  rcases stopped with given | ⟨deadline, bound, late⟩
  · exact .inl (cancelled given)
  · exact .inr ⟨deadline, bound, Nat.le_trans late clock⟩

theorem nextTime_le {wakes : List Wake} {others : List Nat} {limit time : Nat}
    (known : limit ∈ others) (next : nextTime wakes others = some time) : time ≤ limit := by
  rw [nextTime, List.min?_eq_some_iff] at next
  exact next.2 limit (List.mem_append_right _ known)

variable (transport : Transport σ)

theorem cancelled_rest (wakes : List Wake) (given : w.cancelled = true) :
    (rest transport context wakes w).cancelled = true := by
  simp [rest, given]

theorem clock_rest (context : Context) (wakes : List Wake) (w : World σ) :
    w.clock ≤ (rest transport context wakes w).clock := by
  simp only [rest]
  split
  · exact Nat.le_refl _
  · split
    · exact Nat.le_max_left ..
    · exact Nat.le_refl _

-- Waiting never goes past the deadline.
theorem clock_rest_le (wakes : List Wake) (bound : context.deadline = some deadline) :
    (rest transport context wakes w).clock ≤ max w.clock deadline := by
  simp only [rest]
  split
  · exact Nat.le_max_left ..
  · split
    · rename_i time next
      have soon : time ≤ deadline := nextTime_le (by simp [bound]) next
      omega
    · exact Nat.le_max_left ..

theorem clock_rest_stopped (wakes : List Wake) (stopped : Stopped context w) :
    (rest transport context wakes w).clock = w.clock := by
  rcases stopped with given | ⟨deadline, bound, late⟩
  · simp [rest, given]
  · have least := clock_rest transport context wakes w
    have most := clock_rest_le transport wakes bound (w := w)
    omega

-- Once the world has stopped, a step adds nothing to it but a draw, and the clock stands still.
theorem meet_stopped (demand : Demand) (stopped : Stopped context w) :
    (meet transport context demand w).2.clock = w.clock ∧
      (meet transport context demand w).2.journal = w.journal ∧
      (w.cancelled = true → (meet transport context demand w).2.cancelled = true) := by
  cases demand with
  | nothing => exact ⟨rfl, rfl, id⟩
  | rest wakes =>
    exact ⟨clock_rest_stopped transport wakes stopped (w := { w with drawn := w.drawn + 1 }), rfl,
      cancelled_rest transport wakes (w := { w with drawn := w.drawn + 1 })⟩
  | poll job call count =>
    rw [meet_interrupted transport (stopped_iff.mp stopped)]
    exact ⟨rfl, rfl, id⟩

end World

namespace BatchRun

variable (transport : Transport σ) {r : BatchRun σ}

def Stopped (r : BatchRun σ) : Prop := World.Stopped r.batch.context r.world

theorem context_step : (r.step transport).batch.context = r.batch.context :=
  (Batch.step_moves r.batch _).settings.1

theorem Stopped.step (stopped : r.Stopped) : (r.step transport).Stopped := by
  obtain ⟨clock, -, cancelled⟩ := World.meet_stopped transport r.batch.demand stopped
  unfold Stopped
  rw [context_step]
  exact stopped.mono (Nat.le_of_eq clock.symm) cancelled

theorem Stopped.after (stopped : r.Stopped) (k : Nat) : (r.after transport k).Stopped := by
  induction k generalizing r with
  | zero => exact stopped
  | succ k ih => exact ih (stopped.step transport)

theorem Stopped.sight (stopped : r.Stopped) : r.batch.context.interruption?
    (r.world.meet transport r.batch.context r.batch.demand).1.moment = some r.world.reason := by
  rw [World.moment_meet]
  exact World.stopped_iff.mp stopped

-- How an operation ends in a number of steps that nobody waits in: it is interrupted in one of
-- them at its call, or has not passed its local checks.
def CutOff (transport : Transport σ) (r : BatchRun σ) (steps : Nat) (job : Job)
    (result : Except Failure Unit) : Prop :=
  (∃ j < steps, (∃ call count, (r.after transport j).batch.demand = .poll job call count) ∧
      result = .error (.context (r.after transport j).world.reason)) ∨
    ∃ failure, job.operation.prepare r.batch.transaction.isSome = .error failure ∧
      result = .error failure

variable {transport} in
theorem CutOff.mono {job : Job} {result : Except Failure Unit} (more : steps ≤ later)
    (cut : r.CutOff transport steps job result) : r.CutOff transport later job result := by
  rcases cut with ⟨j, before, rest⟩ | unfit
  · exact .inl ⟨j, Nat.lt_of_lt_of_le before more, rest⟩
  · exact .inr unfit

theorem Stopped.halted {group : Group} {left : List (List Job)} (stopped : r.Stopped)
    (stage : r.batch.stage = .running group left) :
    group.Halted (r.world.meet transport r.batch.context r.batch.demand).1 r.world.reason := by
  intro e rest next waits
  obtain ⟨⟨call, count⟩, waiting⟩ := Option.isSome_iff_exists.mp waits
  have asks : r.batch.demand = .poll e.job call count := by
    rw [Batch.demand_of_running stage, Group.demand, next]
    simp only [waiting]
  rw [asks, World.meet_interrupted transport (World.stopped_iff.mp stopped)]

def unanswered : BatchRun Unit :=
  ⟨⟨3, false, (), fun _ => 0, 0, []⟩,
    .start ⟨some 50, .standard⟩ none ⟨true, true⟩ (weighServers ["a", "b", "b"])⟩

end BatchRun
end Reconcile
