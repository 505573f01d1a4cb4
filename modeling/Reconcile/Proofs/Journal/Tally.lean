import Mathlib.Algebra.Ring.Nat
import Mathlib.Data.List.Nodup
import Reconcile.Journal.Metrics

namespace Reconcile

theorem Section.name_injective {s other : Section} (same : s.name = other.name) : s = other := by
  have listed : ∀ s ∈ all, ∀ other ∈ all, s.name = other.name → s = other := by decide +kernel
  exact listed s (mem_all s) other (mem_all other) same

theorem Verb.text_injective {verb other : Verb} (same : verb.text = other.text) : verb = other := by
  revert same
  cases verb <;> cases other <;> decide

namespace Metric

theorem outcomeText_injective {outcome other : Option FailureClass}
    (same : outcomeText outcome = outcomeText other) : outcome = other := by
  revert same
  rcases outcome with - | (- | -) <;> rcases other with - | (- | -) <;> decide

-- Whether a series has a name and, among its labels, some that are given.
def Fits (name : String) (labels : List (String × String)) (m : Metric) : Prop :=
  m.name = name ∧ labels ⊆ m.labels

instance (name : String) (labels : List (String × String)) : DecidablePred (Fits name labels) :=
  fun m => inferInstanceAs (Decidable (m.name = name ∧ ∀ label, label ∈ labels → label ∈ m.labels))

theorem names_apart : operationsName ≠ conflictsName ∧ operationsName ≠ durationsName ∧
    conflictsName ≠ durationsName := by decide

-- A series is told by its name and its labels.
theorem fits_iff {m other : Metric} : Fits m.name m.labels other ↔ other = m := by
  refine ⟨fun ⟨name, labels⟩ => ?_, fun same => same ▸ ⟨rfl, List.Subset.refl _⟩⟩
  cases m with
  | operations kind verb outcome =>
    cases other with
    | operations kind' verb' outcome' =>
      have section' : kind.name = kind'.name := by
        simpa [Metric.labels] using labels (List.mem_cons_self ..)
      have verb' : verb.text = verb'.text := by
        simpa [Metric.labels] using labels (List.mem_cons_of_mem _ (List.mem_cons_self ..))
      have outcome' : outcomeText outcome = outcomeText outcome' := by
        simpa [Metric.labels] using labels (List.mem_of_getLast? rfl)
      rw [Section.name_injective section', Verb.text_injective verb',
        outcomeText_injective outcome']
    | conflicts => exact absurd name.symm names_apart.1
    | durations => exact absurd name.symm names_apart.2.1
  | conflicts kind =>
    cases other with
    | operations => exact absurd name names_apart.1
    | conflicts kind' =>
      have section' : kind.name = kind'.name := by
        simpa [Metric.labels] using labels (List.mem_cons_self ..)
      rw [Section.name_injective section']
    | durations => exact absurd name.symm names_apart.2.2
  | durations kind =>
    cases other with
    | operations => exact absurd name names_apart.2.1
    | conflicts => exact absurd name names_apart.2.2
    | durations kind' =>
      have section' : kind.name = kind'.name := by
        simpa [Metric.labels] using labels (List.mem_cons_self ..)
      rw [Section.name_injective section']

end Metric

-- The counts with one more measurement.
def bump (counts : List (Metric × Nat)) (m : Metric) : List (Metric × Nat) :=
  if counts.any (·.1 = m) then counts.map fun c => if c.1 = m then (m, c.2 + 1) else c
  else counts ++ [(m, 1)]

theorem tally_eq (metrics : List Metric) : tally metrics = metrics.foldl bump [] := rfl

theorem bump_of_absent {counts : List (Metric × Nat)} {m : Metric}
    (absent : m ∉ counts.map (·.1)) : bump counts m = counts ++ [(m, 1)] := by
  rw [bump, if_neg]
  intro present
  obtain ⟨c, mem, same⟩ := List.any_eq_true.mp present
  exact absent (List.mem_map.mpr ⟨c, mem, of_decide_eq_true same⟩)

-- Where each series is counted once, its count goes up and the others stay.
theorem bump_of_present {front back : List (Metric × Nat)} {m : Metric} {n : Nat}
    (distinct : ((front ++ (m, n) :: back).map (·.1)).Nodup) :
    bump (front ++ (m, n) :: back) m = front ++ (m, n + 1) :: back := by
  rw [List.map_append, List.map_cons, List.nodup_append] at distinct
  obtain ⟨-, later, apart⟩ := distinct
  have before : front.map (fun c => if c.1 = m then (m, c.2 + 1) else c) = front := by
    refine (List.map_congr_left fun c mem => if_neg ?_).trans (List.map_id' front)
    exact apart _ (List.mem_map_of_mem mem) _ (List.mem_cons_self ..)
  have behind : back.map (fun c => if c.1 = m then (m, c.2 + 1) else c) = back := by
    refine (List.map_congr_left fun c mem => if_neg ?_).trans (List.map_id' back)
    intro same
    exact (List.nodup_cons.mp later).1 (List.mem_map.mpr ⟨c, mem, same⟩)
  rw [bump, if_pos (by simp), List.map_append, List.map_cons, before, behind, if_pos rfl]

-- The number of measurements in all series of a kind.
def totalOf (asked : Metric → Prop) [DecidablePred asked] (counts : List (Metric × Nat)) : Nat :=
  ((counts.filter (asked ·.1)).map (·.2)).sum

variable {asked : Metric → Prop} [DecidablePred asked]

theorem totalOf_append (front back : List (Metric × Nat)) :
    totalOf asked (front ++ back) = totalOf asked front + totalOf asked back := by
  rw [totalOf, List.filter_append, List.map_append, List.sum_append]
  rfl

theorem totalOf_cons (m : Metric) (n : Nat) (back : List (Metric × Nat)) :
    totalOf asked ((m, n) :: back) = (if asked m then n else 0) + totalOf asked back := by
  by_cases wanted : asked m <;> simp [totalOf, wanted]

theorem bump_counts {counts : List (Metric × Nat)} (distinct : (counts.map (·.1)).Nodup)
    (m : Metric) : ((bump counts m).map (·.1)).Nodup ∧
      totalOf asked (bump counts m) = totalOf asked counts + if asked m then 1 else 0 := by
  by_cases present : m ∈ counts.map (·.1)
  · obtain ⟨⟨_, n⟩, mem, rfl⟩ := List.mem_map.mp present
    obtain ⟨front, back, rfl⟩ := List.append_of_mem mem
    rw [bump_of_present distinct]
    constructor
    · rwa [List.map_append, List.map_cons] at distinct ⊢
    · rw [totalOf_append, totalOf_append, totalOf_cons, totalOf_cons]
      split <;> omega
  · rw [bump_of_absent present]
    constructor
    · rw [List.map_append, List.nodup_append]
      refine ⟨distinct, List.nodup_singleton _, ?_⟩
      rintro earlier mem last same rfl
      rw [List.mem_singleton.mp same] at mem
      exact present mem
    · rw [totalOf_append, totalOf_cons]
      rfl

theorem totalOf_foldl (metrics : List Metric) {counts : List (Metric × Nat)}
    (distinct : (counts.map (·.1)).Nodup) :
    totalOf asked (metrics.foldl bump counts) =
      totalOf asked counts + metrics.countP (asked ·) := by
  induction metrics generalizing counts with
  | nil => rfl
  | cons m metrics ih =>
    obtain ⟨still, more⟩ : _ ∧ totalOf asked _ = _ := bump_counts distinct m
    rw [List.foldl_cons, ih still, more, List.countP_cons, Nat.add_assoc, Nat.add_comm _ (ite ..)]
    simp

namespace Journal

-- What a metric amounts to in the series that have some labels.
def total (journal : Journal) (name : String) (labels : List (String × String)) : Nat :=
  totalOf (Metric.Fits name labels) (tally journal.metrics)

theorem total_eq (journal : Journal) (name : String) (labels : List (String × String)) :
    journal.total name labels = journal.metrics.countP (Metric.Fits name labels ·) := by
  have none : (([] : List (Metric × Nat)).map (·.1)).Nodup := List.nodup_nil
  rw [total, tally_eq, totalOf_foldl _ none]
  exact Nat.zero_add _

end Journal
end Reconcile
