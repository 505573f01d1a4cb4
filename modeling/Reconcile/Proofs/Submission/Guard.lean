import Reconcile.Submission.Context

namespace Reconcile

-- Something that is waited for: what its polls bring and change, the polls counted from 0, and
-- what happens between two of them. The moment can be read off the state at any time.
structure Awaited (ω α : Type) where
  moment : ω → Moment
  poll : Nat → StateM ω (Progress α)
  between : Wake → ω → ω

namespace Context

-- Waits under guard, from the poll with the given number on: how the wait ends, and the state that
-- it leaves, if it ends within so many polls.
def await (c : Context) (a : Awaited ω α) : Nat → Nat → ω → Option (Except Interruption α × ω)
  | 0, _, _ => none
  | polls + 1, count, s =>
    match c.guard (a.moment s) (a.poll count) s with
    | (.ready result, after) => some (result, after)
    | (.waiting wake, after) => await c a polls (count + 1) (a.between wake after)

def Ends (c : Context) (a : Awaited ω α) (count : Nat) (s : ω) (result : Except Interruption α)
    (after : ω) : Prop :=
  ∃ polls, c.await a polls count s = some (result, after)

-- Neither a cancellation nor the deadline stands against a poll that begins now.
def Undisturbed (c : Context) (now : Moment) : Prop :=
  now.cancelled = false ∧ ∀ deadline, c.deadline = some deadline → now.clock < deadline

-- What interrupts a poll that would begin now. A cancellation counts also after the deadline.
def Disturbed (c : Context) (now : Moment) : Interruption → Prop
  | .cancelled => now.cancelled = true
  | .deadlineExceeded =>
    now.cancelled = false ∧ ∃ deadline, c.deadline = some deadline ∧ deadline ≤ now.clock

variable {c : Context} {now : Moment}

theorem undisturbed_iff : c.Undisturbed now ↔ c.interruption? now = none := by
  unfold Undisturbed interruption?
  cases now.cancelled with
  | true => simp
  | false =>
    cases c.deadline with
    | none => simp
    | some deadline => simp

theorem disturbed_iff {interruption : Interruption} :
    c.Disturbed now interruption ↔ c.interruption? now = some interruption := by
  cases interruption with
  | cancelled =>
    unfold Disturbed interruption?
    cases now.cancelled with
    | true => simp
    | false => simp
  | deadlineExceeded =>
    unfold Disturbed interruption?
    cases now.cancelled with
    | true => simp
    | false =>
      cases c.deadline with
      | none => simp
      | some deadline => simp

end Context

namespace Awaited

variable {ω α : Type} {a : Awaited ω α}

-- Without a guard: in which states the polls begin, each after those before it were in vain.
inductive Begins (a : Awaited ω α) : Nat → ω → Nat → ω → Prop where
  | now : Begins a count s count s
  | later : a.poll count s = (.waiting wake, after) →
      Begins a (count + 1) (a.between wake after) k t → Begins a count s k t

theorem Begins.le {s t : ω} (begins : a.Begins count s k t) : count ≤ k := by
  induction begins with
  | now => exact Nat.le_refl _
  | later _ _ ih => exact Nat.le_of_succ_le ih

-- Each poll begins in one state only.
theorem Begins.unique {s t u : ω} (begins : a.Begins count s k t) (again : a.Begins count s k u) :
    t = u := by
  induction begins with
  | now =>
    cases again with
    | now => rfl
    | later _ rest => exact absurd rest.le (Nat.not_succ_le_self _)
  | later waits rest ih =>
    cases again with
    | now => exact absurd rest.le (Nat.not_succ_le_self _)
    | later waits' rest' =>
      cases waits.symm.trans waits'
      exact ih rest'

-- Polls that come later have no part in it.
theorem Begins.congr {s t : ω} (begins : a.Begins count s k t) {poll : Nat → StateM ω (Progress α)}
    (same : ∀ j < k, poll j = a.poll j) : Begins { a with poll := poll } count s k t := by
  induction begins with
  | now => exact .now
  | later waits rest ih =>
    refine .later ?_ (ih same)
    rw [← waits]
    exact congrFun (same _ rest.le) _

-- Nothing interrupts at a poll that comes before a given one.
def Calm (a : Awaited ω α) (c : Context) (count : Nat) (s : ω) (limit : Nat) : Prop :=
  ∀ j < limit, ∀ t, a.Begins count s j t → c.Undisturbed (a.moment t)

variable {c : Context}

theorem Calm.later {s after : ω} (waits : a.poll count s = (.waiting wake, after))
    (calm : a.Calm c count s limit) : a.Calm c (count + 1) (a.between wake after) limit :=
  fun j before t begins => calm j before t (.later waits begins)

theorem Calm.cons {s after : ω} (free : c.Undisturbed (a.moment s))
    (waits : a.poll count s = (.waiting wake, after))
    (calm : a.Calm c (count + 1) (a.between wake after) limit) : a.Calm c count s limit := by
  intro j before t begins
  cases begins with
  | now => exact free
  | later waits' rest =>
    cases waits.symm.trans waits'
    exact calm j before t rest

theorem calm_succ_iff {s t : ω} (begins : a.Begins count s k t) :
    a.Calm c count s (k + 1) ↔ a.Calm c count s k ∧ c.Undisturbed (a.moment t) := by
  constructor
  · intro calm
    exact ⟨fun j before => calm j (Nat.lt_succ_of_lt before), calm k (Nat.lt_succ_self k) t begins⟩
  · rintro ⟨calm, free⟩ j before u begun
    rcases Nat.lt_succ_iff_lt_or_eq.mp before with earlier | rfl
    · exact calm j earlier u begun
    · rw [begun.unique begins]
      exact free

theorem calm_self {s : ω} : a.Calm c count s count :=
  fun _ before _ begins => absurd begins.le (Nat.not_le_of_lt before)

end Awaited

namespace Context

variable {ω α : Type} {c : Context} {a : Awaited ω α}

theorem await_disturbed {s : ω} {interruption : Interruption}
    (stopped : c.Disturbed (a.moment s) interruption) (polls count : Nat) :
    c.await a (polls + 1) count s = some (.error interruption, s) := by
  rw [await, guard, disturbed_iff.mp stopped]
  rfl

theorem await_ready {s after : ω} (free : c.Undisturbed (a.moment s))
    (ready : a.poll count s = (.ready value, after)) (polls : Nat) :
    c.await a (polls + 1) count s = some (.ok value, after) := by
  rw [await, guard, undisturbed_iff.mp free]
  simp only [bind, StateT.bind, ready]
  rfl

theorem await_waiting {s after : ω} (free : c.Undisturbed (a.moment s))
    (waits : a.poll count s = (.waiting wake, after)) (polls : Nat) :
    c.await a (polls + 1) count s = c.await a polls (count + 1) (a.between wake after) := by
  rw [await, guard, undisturbed_iff.mp free]
  simp only [bind, StateT.bind, waits]
  rfl

-- How a wait can end: with what one of the polls brings, or interrupted before one, and nothing
-- interrupted at those before.
inductive Concludes (c : Context) (a : Awaited ω α) (count : Nat) (s : ω) :
    Except Interruption α → ω → Prop where
  | returned : a.Begins count s k t → a.Calm c count s (k + 1) →
      a.poll k t = (.ready value, after) → Concludes c a count s (.ok value) after
  | interrupted : a.Begins count s k after → a.Calm c count s k →
      c.Disturbed (a.moment after) interruption →
      Concludes c a count s (.error interruption) after

theorem Concludes.later {s next after : ω} {result : Except Interruption α}
    (free : c.Undisturbed (a.moment s)) (waits : a.poll count s = (.waiting wake, next))
    (rest : c.Concludes a (count + 1) (a.between wake next) result after) :
    c.Concludes a count s result after := by
  cases rest with
  | returned begins calm ready => exact .returned (.later waits begins) (.cons free waits calm) ready
  | interrupted begins calm stopped =>
    exact .interrupted (.later waits begins) (.cons free waits calm) stopped

theorem concludes_of_await {s after : ω} {result : Except Interruption α}
    (ended : c.await a polls count s = some (result, after)) :
    c.Concludes a count s result after := by
  induction polls generalizing count s with
  | zero => cases ended
  | succ polls ih =>
    cases stop : c.interruption? (a.moment s) with
    | some interruption =>
      have stopped := disturbed_iff.mpr stop
      rw [await_disturbed stopped] at ended
      cases ended
      exact .interrupted .now Awaited.calm_self stopped
    | none =>
      have free := undisturbed_iff.mpr stop
      cases poll : a.poll count s with
      | mk progress next =>
        cases progress with
        | ready value =>
          rw [await_ready free poll] at ended
          cases ended
          exact .returned .now ((Awaited.calm_succ_iff .now).mpr ⟨Awaited.calm_self, free⟩) poll
        | waiting wake =>
          rw [await_waiting free poll] at ended
          exact (ih ended).later free poll

-- A poll that begins without a guard begins under it too, unless something interrupts before.
theorem await_of_begins {s t : ω} (begins : a.Begins count s k t) (calm : a.Calm c count s k) :
    ∃ more, ∀ polls, c.await a (polls + more) count s = c.await a polls k t := by
  induction begins with
  | now => exact ⟨0, fun _ => rfl⟩
  | later waits rest ih =>
    obtain ⟨more, same⟩ := ih (calm.later waits)
    refine ⟨more + 1, fun polls => ?_⟩
    have free := calm _ rest.le _ .now
    rw [← Nat.add_assoc, await_waiting free waits, same]

theorem ends_iff {s after : ω} {result : Except Interruption α} :
    c.Ends a count s result after ↔ c.Concludes a count s result after := by
  constructor
  · rintro ⟨polls, ended⟩
    exact concludes_of_await ended
  · intro concludes
    cases concludes with
    | returned begins calm ready =>
      obtain ⟨before, free⟩ := (Awaited.calm_succ_iff begins).mp calm
      obtain ⟨more, same⟩ := await_of_begins begins before
      refine ⟨0 + 1 + more, ?_⟩
      rw [same, await_ready free ready]
    | interrupted begins calm stopped =>
      obtain ⟨more, same⟩ := await_of_begins begins calm
      refine ⟨0 + 1 + more, ?_⟩
      rw [same, await_disturbed stopped]

-- A wait that ends within some polls ends in the same way within more.
theorem await_more {s : ω} (ended : c.await a polls count s = some outcome) (more : Nat) :
    c.await a (polls + more) count s = some outcome := by
  induction polls generalizing count s with
  | zero => cases ended
  | succ polls ih =>
    rw [Nat.succ_add, await]
    rw [await] at ended
    cases round : c.guard (a.moment s) (a.poll count) s with
    | mk progress after =>
      rw [round] at ended
      cases progress with
      | ready result => exact ended
      | waiting wake => exact ih ended

theorem Ends.unique {s after later : ω} {result other : Except Interruption α}
    (ends : c.Ends a count s result after) (again : c.Ends a count s other later) :
    result = other ∧ after = later := by
  obtain ⟨polls, ended⟩ := ends
  obtain ⟨polls', ended'⟩ := again
  have both := await_more ended polls'
  rw [Nat.add_comm, await_more ended' polls] at both
  cases both
  exact ⟨rfl, rfl⟩

-- Whatever the polls would bring from the interruption on, they are not made.
theorem Ends.unpolled {s after : ω} {interruption : Interruption} (begins : a.Begins count s k after)
    (calm : a.Calm c count s k) (stopped : c.Disturbed (a.moment after) interruption)
    {poll : Nat → StateM ω (Progress α)} (same : ∀ j < k, poll j = a.poll j) :
    c.Ends { a with poll := poll } count s (.error interruption) after := by
  refine ends_iff.mpr (.interrupted (begins.congr same) ?_ stopped)
  intro j before t begun
  refine calm j before t ?_
  exact begun.congr fun i earlier => (same i (Nat.lt_trans earlier before)).symm

-- A wait under guard brings what the poll brings that is ready, unless a cancellation or the
-- deadline is there when that poll or an earlier one begins. Then the wait ends where the first
-- such poll would begin, and neither that poll nor a later one is made. So what a poll has brought
-- is never lost, and a context that has failed already lets nothing be polled at all.
theorem guard_keeps_outputs (c : Context) (a : Awaited ω α) (s : ω) :
    (∀ value after, c.Ends a 0 s (.ok value) after ↔
      ∃ k t, a.Begins 0 s k t ∧ a.poll k t = (.ready value, after) ∧
        ∀ j ≤ k, ∀ u, a.Begins 0 s j u → c.Undisturbed (a.moment u)) ∧
      (∀ interruption after, c.Ends a 0 s (.error interruption) after ↔
        ∃ k, a.Begins 0 s k after ∧ c.Disturbed (a.moment after) interruption ∧
          (∀ j < k, ∀ u, a.Begins 0 s j u → c.Undisturbed (a.moment u)) ∧
          ∀ poll, (∀ j < k, poll j = a.poll j) →
            c.Ends { a with poll := poll } 0 s (.error interruption) after) ∧
      (∀ interruption, c.interruption? (a.moment s) = some interruption →
        ∀ poll : Nat → StateM ω (Progress α),
          c.Ends { a with poll := poll } 0 s (.error interruption) s) ∧
      (∀ result after other later, c.Ends a 0 s result after → c.Ends a 0 s other later →
        result = other ∧ after = later) := by
  refine ⟨fun value after => ⟨fun ends => ?_, ?_⟩, fun interruption after => ⟨fun ends => ?_, ?_⟩,
    fun interruption failed poll => ?_, fun _ _ _ _ ends again => ends.unique again⟩
  · cases ends_iff.mp ends with
    | returned begins calm ready =>
      exact ⟨_, _, begins, ready, fun j within => calm j (Nat.lt_succ_of_le within)⟩
  · rintro ⟨k, t, begins, ready, calm⟩
    exact ends_iff.mpr (.returned begins (fun j before => calm j (Nat.le_of_lt_succ before)) ready)
  · cases ends_iff.mp ends with
    | interrupted begins calm stopped =>
      exact ⟨_, begins, stopped, calm, fun poll same => .unpolled begins calm stopped same⟩
  · rintro ⟨k, begins, stopped, calm, -⟩
    exact ends_iff.mpr (.interrupted begins calm stopped)
  · exact .unpolled .now Awaited.calm_self (disturbed_iff.mpr failed)
      fun _ before => absurd before (Nat.not_lt_zero _)

end Context
end Reconcile
