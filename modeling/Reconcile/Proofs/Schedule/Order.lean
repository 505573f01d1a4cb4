import Reconcile.Schedule.Order

namespace Reconcile

theorem OrderKey.le_iff {a b : OrderKey} :
    OrderKey.le a b = true ↔ a.1 < b.1 ∨ a.1 = b.1 ∧ a.2 ≤ b.2 := by
  simp [OrderKey.le]

theorem OrderKey.le_trans {a b c : OrderKey} (ab : OrderKey.le a b) (bc : OrderKey.le b c) :
    OrderKey.le a c := by
  rw [OrderKey.le_iff] at ab bc ⊢
  omega

theorem OrderKey.le_total (a b : OrderKey) : OrderKey.le a b || OrderKey.le b a := by
  rw [Bool.or_eq_true, OrderKey.le_iff, OrderKey.le_iff]
  omega

theorem Operation.positional?_eq_some {op : Operation} {list : PositionalList} :
    op.positional? = some list ↔
      op.kind = list.kind ∧ ∃ index, op.address = .indexed list.parent index := by
  obtain ⟨kind, parent⟩ := list
  unfold Operation.positional?
  split
  · rename_i found index same
    simp [same]
  · rename_i other
    simp only [reduceCtorEq, false_iff, not_and, not_exists]
    exact fun _ index same => other _ _ same

def Operation.worksOn (list : PositionalList) (op : Operation) : Bool := op.positional? = some list

theorem Operation.worksOn_iff {op : Operation} {list : PositionalList} :
    op.worksOn list = true ↔ op.positional? = some list := decide_eq_true_iff

theorem Operation.worksOn_unique {op : Operation} {one two : PositionalList}
    (first : op.worksOn one = true) (second : op.worksOn two = true) : one = two :=
  Option.some.inj ((worksOn_iff.mp first).symm.trans (worksOn_iff.mp second))

-- On one positional list the tiers agree, so positions decide.
theorem Operation.orderKey_of_positional {op : Operation} {list : PositionalList}
    (h : op.positional? = some list) :
    op.orderKey = (list.kind.tier.rank, op.address.index?.getD 0) := by
  rw [orderKey, tier, (positional?_eq_some.mp h).1]

namespace Schedule

theorem ascending_perm (ops : List Operation) : (ascending ops).Perm ops := List.mergeSort_perm ..

theorem descending_perm (ops : List Operation) : (descending ops).Perm ops := List.mergeSort_perm ..

theorem pairwise_ascending (ops : List Operation) :
    (ascending ops).Pairwise fun a b => OrderKey.le a.orderKey b.orderKey := by
  refine List.pairwise_mergeSort ?_ ?_ ops
  · exact fun _ _ _ ab bc => OrderKey.le_trans ab bc
  · exact fun _ _ => OrderKey.le_total _ _

theorem pairwise_descending (ops : List Operation) :
    (descending ops).Pairwise fun a b => OrderKey.le b.orderKey a.orderKey := by
  refine List.pairwise_mergeSort ?_ ?_ ops
  · exact fun _ _ _ ba cb => OrderKey.le_trans cb ba
  · exact fun _ _ => OrderKey.le_total _ _

theorem merged_perm (ops : List Operation) :
    (ofList ops).merged.Perm (ops.filter (·.verb ≠ .delete)) := by
  have creates : ops.filter (·.verb = .create) =
      (ops.filter (·.verb ≠ .delete)).filter (·.verb = .create) := by
    rw [List.filter_filter]
    exact List.filter_congr fun op _ => by cases op.verb <;> rfl
  have updates : ops.filter (·.verb = .update) =
      (ops.filter (·.verb ≠ .delete)).filter (fun op => !decide (op.verb = .create)) := by
    rw [List.filter_filter]
    exact List.filter_congr fun op _ => by cases op.verb <;> rfl
  refine (ascending_perm _).trans (((ascending_perm _).append (ascending_perm _)).trans ?_)
  rw [creates, updates]
  exact List.filter_append_perm ..

theorem hoist_none (deletes rest : List Operation) (op : Operation) (h : op.positional? = none) :
    hoist deletes (op :: rest) = op :: hoist deletes rest := by
  rw [hoist, h]

theorem hoist_some (deletes rest : List Operation) (op : Operation) {list : PositionalList}
    (h : op.positional? = some list) :
    hoist deletes (op :: rest) = deletes.filter (·.worksOn list) ++
      op :: hoist (deletes.filter (!·.worksOn list)) rest := by
  rw [hoist, h]
  simp only [List.partition_eq_filter_filter]
  rfl

theorem hoist_perm (deletes ops : List Operation) : (hoist deletes ops).Perm (deletes ++ ops) := by
  induction ops generalizing deletes with
  | nil => simp [hoist]
  | cons op rest ih =>
    cases place : op.positional? with
    | none =>
      rw [hoist_none _ _ _ place]
      exact ((ih deletes).cons op).trans List.perm_middle.symm
    | some list =>
      rw [hoist_some _ _ _ place]
      have parts := List.filter_append_perm (·.worksOn list) deletes
      calc
        List.Perm _ (deletes.filter (·.worksOn list) ++
            op :: (deletes.filter (!·.worksOn list) ++ rest)) := ((ih _).cons op).append_left _
        List.Perm _ (op :: (deletes.filter (·.worksOn list) ++
            (deletes.filter (!·.worksOn list) ++ rest))) := List.perm_middle
        List.Perm _ (op :: (deletes ++ rest)) := by
          rw [← List.append_assoc]
          exact (parts.append_right rest).cons op
        List.Perm _ (deletes ++ op :: rest) := List.perm_middle.symm

theorem ordered_perm_parts (s : Schedule) : s.ordered.Perm (s.deletes ++ s.merged) := by
  have parts := List.filter_append_perm (touched s.merged) s.deletes
  simp only [ordered, List.partition_eq_filter_filter]
  calc
    List.Perm _ (s.deletes.filter (touched s.merged) ++ s.merged ++
        s.deletes.filter (not ∘ touched s.merged)) := (hoist_perm ..).append_right _
    List.Perm _ (s.deletes.filter (touched s.merged) ++
        (s.deletes.filter (not ∘ touched s.merged) ++ s.merged)) := by
      rw [List.append_assoc]
      exact List.perm_append_comm.append_left _
    List.Perm _ (s.deletes ++ s.merged) := by
      rw [← List.append_assoc]
      exact parts.append_right _

-- The order holds every operation of the batch once.
theorem ordered_perm (ops : List Operation) : (ofList ops).ordered.Perm ops := by
  have parts := List.filter_append_perm (fun op : Operation => decide (op.verb = .delete)) ops
  refine (ordered_perm_parts _).trans (((descending_perm _).append (merged_perm ops)).trans ?_)
  simpa [decide_not] using parts

-- What works on one list works on no other.
theorem filter_elsewhere {list other : PositionalList} (apart : other ≠ list)
    (ops : List Operation) :
    ops.filter (fun op => op.worksOn list && !op.worksOn other) = ops.filter (·.worksOn list) := by
  refine List.filter_congr fun op _ => ?_
  cases here : op.worksOn list with
  | false => rfl
  | true =>
    have elsewhere : op.worksOn other = false := Bool.eq_false_iff.mpr fun there =>
      apart (Operation.worksOn_unique there here)
    simp [elsewhere]

-- On one positional list the deletes all come first.
theorem filter_hoist (list : PositionalList) (deletes ops : List Operation) :
    (hoist deletes ops).filter (·.worksOn list) =
      deletes.filter (·.worksOn list) ++ ops.filter (·.worksOn list) := by
  induction ops generalizing deletes with
  | nil => simp [hoist]
  | cons op rest ih =>
    cases place : op.positional? with
    | none =>
      have off : op.worksOn list = false := by simp [Operation.worksOn, place]
      simp only [hoist_none _ _ _ place, List.filter_cons, off, Bool.false_eq_true, if_false, ih]
    | some other =>
      rw [hoist_some _ _ _ place, List.filter_append, List.filter_cons, List.filter_cons, ih,
        List.filter_filter, List.filter_filter]
      by_cases same : other = list
      · subst same
        have on : op.worksOn other = true := Operation.worksOn_iff.mpr place
        simp [on]
      · have off : op.worksOn list = false := by simp [Operation.worksOn, place, same]
        have now : deletes.filter (fun d => d.worksOn list && d.worksOn other) = [] := by
          rw [List.filter_eq_nil_iff]
          intro d _ both
          rw [Bool.and_eq_true] at both
          exact same (Operation.worksOn_unique both.2 both.1)
        simp [off, now, filter_elsewhere same]

theorem filter_ordered (list : PositionalList) (s : Schedule) :
    s.ordered.filter (·.worksOn list) =
      s.deletes.filter (·.worksOn list) ++ s.merged.filter (·.worksOn list) := by
  have touching : ∀ op : Operation, op.worksOn list = true →
      touched s.merged op = s.merged.any (·.worksOn list) := fun op on => by
    rw [Operation.worksOn_iff] at on
    simp [touched, on, Operation.worksOn]
  simp only [ordered, List.partition_eq_filter_filter, List.filter_append, filter_hoist,
    List.filter_filter]
  have hoisted : s.deletes.filter (fun op => op.worksOn list && touched s.merged op) =
      s.deletes.filter fun op => op.worksOn list && s.merged.any (·.worksOn list) :=
    List.filter_congr fun op _ => by
      cases on : op.worksOn list with
      | false => rfl
      | true => rw [touching op on]
  have trailing : s.deletes.filter (fun op => op.worksOn list && !touched s.merged op) =
      s.deletes.filter fun op => op.worksOn list && !s.merged.any (·.worksOn list) :=
    List.filter_congr fun op _ => by
      cases on : op.worksOn list with
      | false => rfl
      | true => rw [touching op on]
  simp only [Function.comp_def]
  rw [hoisted, trailing]
  cases found : s.merged.any (·.worksOn list) with
  | true => simp
  | false =>
    have untouched : s.merged.filter (·.worksOn list) = [] := by
      rw [List.filter_eq_nil_iff]
      intro op mem on
      rw [List.any_eq_false] at found
      exact found op mem on
    simp [untouched]

end Schedule
end Reconcile
