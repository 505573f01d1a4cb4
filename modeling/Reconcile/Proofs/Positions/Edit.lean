import Mathlib.Data.List.Forall2
import Reconcile.Operation.Basic

namespace Reconcile

-- One change to the entry at a position of a list. What a delete carries is ignored.
structure Edit (α : Type) where
  verb : Verb
  index : Nat
  entry : α

-- The positions of a list that a verb can work on: an entry is created before another or at the
-- end, everything else needs an entry that is there.
def Verb.Admits (verb : Verb) (index length : Nat) : Prop :=
  match verb with
  | .create => index ≤ length
  | .update | .delete => index < length

namespace Edit

def apply (e : Edit α) (l : List α) : List α :=
  match e.verb with
  | .create => l.insertIdx e.index e.entry
  | .update => l.set e.index e.entry
  | .delete => l.eraseIdx e.index

def run (l : List α) (edits : List (Edit α)) : List α := edits.foldl (fun l e => e.apply l) l

-- Every edit works on a position that the list has when its turn comes.
def Sound : List α → List (Edit α) → Prop
  | _, [] => True
  | l, e :: rest => e.verb.Admits e.index l.length ∧ Sound (e.apply l) rest

-- The positions that the edits of one verb name.
def indexes (verb : Verb) (edits : List (Edit α)) : List Nat :=
  (edits.filter (·.verb = verb)).map (·.index)

theorem run_append (l : List α) (one two : List (Edit α)) :
    run l (one ++ two) = run (run l one) two := List.foldl_append

theorem sound_append (l : List α) (one two : List (Edit α)) :
    Sound l (one ++ two) ↔ Sound l one ∧ Sound (run l one) two := by
  induction one generalizing l with
  | nil => simp [Sound, run]
  | cons e rest ih => simp [Sound, run, ih, and_assoc]

theorem mem_indexes {verb : Verb} {edits : List (Edit α)} {i : Nat} :
    i ∈ indexes verb edits ↔ ∃ e ∈ edits, e.verb = verb ∧ e.index = i := by
  simp [indexes, and_assoc]

theorem indexes_cons_of_eq {verb : Verb} (e : Edit α) (rest : List (Edit α)) (h : e.verb = verb) :
    indexes verb (e :: rest) = e.index :: indexes verb rest := by
  simp [indexes, h]

theorem indexes_cons_of_ne {verb : Verb} (e : Edit α) (rest : List (Edit α)) (h : e.verb ≠ verb) :
    indexes verb (e :: rest) = indexes verb rest := by
  simp [indexes, h]

theorem indexes_cons (verb : Verb) (e : Edit α) (rest : List (Edit α)) :
    indexes verb (e :: rest) = indexes verb [e] ++ indexes verb rest := by
  by_cases h : e.verb = verb <;> simp [indexes, h]

theorem indexes_sublist (verb : Verb) (edits : List (Edit α)) :
    (indexes verb edits).Sublist (edits.map (·.index)) :=
  List.filter_sublist.map _

end Edit

-- Where a position stands among those that are not taken: its number without the taken ones.
def slot (taken : List Nat) (j : Nat) : Nat := j - taken.countP (· < j)

-- The positions of a list of a length that are not taken, in order.
def free (taken : List Nat) (length : Nat) : List Nat :=
  (List.range length).filter (· ∉ taken)

theorem slot_cons_of_lt {taken : List Nat} {i j : Nat} (h : i < j) :
    slot (i :: taken) j = slot taken j - 1 := by
  simp only [slot, List.countP_cons, h, decide_true, if_true]
  omega

theorem slot_cons_of_ge {taken : List Nat} {i j : Nat} (h : j ≤ i) :
    slot (i :: taken) j = slot taken j := by
  simp [slot, Nat.not_lt.mpr h]

theorem slot_of_ge {taken : List Nat} {j : Nat} (h : ∀ t ∈ taken, j ≤ t) : slot taken j = j := by
  have none : taken.countP (· < j) = 0 := by
    rw [List.countP_eq_zero]
    intro t mem
    simpa using h t mem
  simp [slot, none]

theorem slot_of_lt {taken : List Nat} {j : Nat} (h : ∀ t ∈ taken, t < j) :
    slot taken j = j - taken.length := by
  have all : taken.countP (· < j) = taken.length := by
    rw [List.countP_eq_length]
    intro t mem
    simpa using h t mem
  simp [slot, all]

-- Positions that go up between two bounds are fewer than the positions there.
theorem length_lt_of_ascending {taken : List Nat} {low high : Nat} (bounds : low < high)
    (sorted : taken.Pairwise (· < ·)) (inside : ∀ t ∈ taken, low < t ∧ t < high) :
    low + taken.length < high := by
  induction taken generalizing low with
  | nil => simpa using bounds
  | cons t rest ih =>
    obtain ⟨first, sorted⟩ := List.pairwise_cons.mp sorted
    have between := inside t (List.mem_cons_self ..)
    have tail := ih between.2 sorted fun u mem =>
      ⟨first u mem, (inside u (List.mem_cons_of_mem _ mem)).2⟩
    simp only [List.length_cons]
    omega

-- A position below all that are taken stays below what is behind it.
theorem lt_slot_iff {taken : List Nat} {i j : Nat} (sorted : taken.Pairwise (· < ·))
    (above : ∀ t ∈ taken, i < t) : i < slot taken j ↔ i < j := by
  refine ⟨fun h => Nat.lt_of_lt_of_le h (Nat.sub_le ..), fun h => ?_⟩
  have fewer : i + (taken.filter (· < j)).length < j := by
    refine length_lt_of_ascending h (sorted.filter _) fun t mem => ?_
    obtain ⟨mem, low⟩ := List.mem_filter.mp mem
    exact ⟨above t mem, by simpa using low⟩
  simp only [slot, List.countP_eq_length_filter]
  omega

-- Only what is taken before a position moves it.
theorem slot_eq_of_lt {taken : List Nat} {j : Nat} (sorted : taken.Pairwise (· < ·))
    (above : ∀ t ∈ taken, slot taken j < t) : slot taken j = j := by
  have order := lt_slot_iff (j := j) sorted above
  have bound : slot taken j ≤ j := Nat.sub_le ..
  omega

theorem slot_append {one two : List Nat} {j : Nat} (sorted : two.Pairwise (· < ·))
    (above : ∀ i ∈ one, ∀ t ∈ two, i < t) : slot (one ++ two) j = slot one (slot two j) := by
  have same : one.countP (· < slot two j) = one.countP (· < j) :=
    List.countP_congr fun i mem => by simpa using lt_slot_iff sorted (above i mem)
  rw [slot, slot, same, List.countP_append, slot]
  omega

theorem free_succ (taken : List Nat) (n : Nat) :
    free taken (n + 1) = free taken n ++ if n ∈ taken then [] else [n] := by
  by_cases h : n ∈ taken <;> simp [free, List.range_succ, h]

theorem countP_lt_succ (taken : List Nat) (n : Nat) :
    taken.countP (· < n + 1) = taken.countP (· < n) + taken.count n := by
  induction taken with
  | nil => rfl
  | cons t rest ih =>
    simp only [List.countP_cons, List.count_cons, ih, decide_eq_true_eq, beq_iff_eq]
    split_ifs <;> omega

-- Each position is taken once or free, so the free ones below a bound are as many as its slot says.
theorem length_free {taken : List Nat} (distinct : taken.Nodup) (n : Nat) :
    (free taken n).length + taken.countP (· < n) = n := by
  induction n with
  | zero => simp [free]
  | succ n ih =>
    rw [free_succ, countP_lt_succ, distinct.count, List.length_append]
    by_cases h : n ∈ taken
    · simp only [h, if_true, List.length_nil]
      omega
    · simp only [h, if_false, List.length_singleton]
      omega

theorem slot_of_free {taken : List Nat} (distinct : taken.Nodup) {n k j : Nat}
    (h : (free taken n)[k]? = some j) : j < n ∧ j ∉ taken ∧ slot taken j = k := by
  induction n with
  | zero => simp [free] at h
  | succ n ih =>
    rw [free_succ] at h
    by_cases inside : k < (free taken n).length
    · rw [List.getElem?_append_left inside] at h
      obtain ⟨bound, rest⟩ := ih h
      exact ⟨by omega, rest⟩
    · rw [List.getElem?_append_right (by omega)] at h
      by_cases mem : n ∈ taken
      · simp [mem] at h
      · obtain ⟨last, rfl⟩ : k - (free taken n).length = 0 ∧ n = j := by
          simpa [mem, List.getElem?_singleton] using h
        have count := length_free distinct n
        exact ⟨by omega, mem, by unfold slot; omega⟩

end Reconcile
