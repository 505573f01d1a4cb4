import Mathlib.Data.List.Permutation
import Reconcile.Proofs.Schedule.Order
import Reconcile.Section.Dependencies

namespace Reconcile

section

variable {le : α → α → Bool}

-- A stable sort puts a new first element between what is below it and what is not.
theorem mergeSort_parts (trans : ∀ a b c, le a b = true → le b c = true → le a c = true)
    (total : ∀ a b, (le a b || le b a) = true) (a : α) (l : List α) :
    l.mergeSort le = (l.mergeSort le).filter (!le a ·) ++ (l.mergeSort le).filter (le a ·) ∧
      (a :: l).mergeSort le =
        (l.mergeSort le).filter (!le a ·) ++ a :: (l.mergeSort le).filter (le a ·) := by
  obtain ⟨below, above, whole, rest, under⟩ := List.mergeSort_cons trans total a l
  have sorted := List.pairwise_mergeSort trans total (a :: l)
  rw [whole, List.pairwise_append, List.pairwise_cons] at sorted
  have beyond : ∀ b ∈ above, le a b = true := sorted.2.1.1
  have first : (below ++ above).filter (!le a ·) = below := by
    rw [List.filter_append, List.filter_eq_self.mpr under, List.filter_eq_nil_iff.mpr]
    · exact List.append_nil _
    · exact fun b mem => by simp [beyond b mem]
  have last : (below ++ above).filter (le a ·) = above := by
    rw [List.filter_append, List.filter_eq_self.mpr beyond, List.filter_eq_nil_iff.mpr]
    · exact List.nil_append _
    · exact fun b mem => by simpa using under b mem
  rw [rest, first, last]
  exact ⟨rfl, whole⟩

-- It makes no difference whether some are left out before or after.
theorem mergeSort_filter (trans : ∀ a b c, le a b = true → le b c = true → le a c = true)
    (total : ∀ a b, (le a b || le b a) = true) (l : List α) (p : α → Bool) :
    (l.filter p).mergeSort le = (l.mergeSort le).filter p := by
  induction l with
  | nil => simp
  | cons a rest ih =>
    obtain ⟨parts, whole⟩ := mergeSort_parts trans total a rest
    by_cases kept : p a = true
    · have whole' := (mergeSort_parts trans total a (rest.filter p)).2
      simp only [ih, List.filter_filter] at whole'
      rw [List.filter_cons_of_pos kept, whole', whole, List.filter_append,
        List.filter_cons_of_pos kept, List.filter_filter, List.filter_filter]
      simp only [Bool.and_comm]
    · rw [List.filter_cons_of_neg kept, ih, whole, List.filter_append,
        List.filter_cons_of_neg kept, ← List.filter_append, ← parts]

-- All that agree in their keys stay as they came.
theorem filter_mergeSort (trans : ∀ a b c, le a b = true → le b c = true → le a c = true)
    (total : ∀ a b, (le a b || le b a) = true) (l : List α) {p : α → Bool}
    (agree : ∀ a b, p a = true → p b = true → le a b = true) :
    (l.mergeSort le).filter p = l.filter p := by
  have sorted : (l.filter p).Pairwise fun a b => le a b = true :=
    List.pairwise_filter.mpr (List.pairwise_of_forall agree)
  rw [← mergeSort_filter trans total, List.mergeSort_of_pairwise sorted]

end

theorem OrderKey.le_of_eq {a b : OrderKey} (same : a = b) : OrderKey.le a b = true := by
  rw [OrderKey.le_iff, same]
  omega

namespace Operation

-- What changes the list as it was.
def removesFrom (list : PositionalList) (op : Operation) : Bool :=
  op.verb = .delete && op.worksOn list

-- A delete on no list that the batch also creates into or changes.
def trails (ops : List Operation) (op : Operation) : Bool :=
  op.verb = .delete && !Schedule.touched (ops.filter (·.verb ≠ .delete)) op

-- An address of the kind that the section has.
def Fits (op : Operation) : Prop := op.address.shape = op.kind.shape

end Operation

namespace Schedule

-- The deletes on a list stand together, right before the first create or update on it.
structure Hoisted (list : PositionalList) (ops order : List Operation) : Prop where
  together : ∃ before first after,
    order = before ++ order.filter (·.removesFrom list) ++ first :: after ∧
      first.verb ≠ .delete ∧ first.positional? = some list ∧
      ∀ op ∈ before, op.positional? ≠ some list
  descends : (order.filter (·.removesFrom list)).Pairwise fun a b =>
    b.address.index?.getD 0 ≤ a.address.index?.getD 0
  inTurn : ∀ index,
    order.filter (fun op => op.removesFrom list && op.address.index? = some index) =
      ops.filter fun op => op.removesFrom list && op.address.index? = some index

-- How an order keeps to its batch.
structure Arranged (ops order : List Operation) : Prop where
  whole : order.Perm ops
  ascends : order.Pairwise fun a b => a.verb ≠ .delete → b.verb ≠ .delete →
    OrderKey.le a.orderKey b.orderKey
  createsFirst : order.Pairwise fun a b => a.verb = .update → b.verb = .create →
    a.orderKey ≠ b.orderKey
  inTurn : ∀ verb key, verb ≠ .delete →
    order.filter (fun op => op.verb = verb && op.orderKey = key) =
      ops.filter fun op => op.verb = verb && op.orderKey = key
  hoisted : ∀ list, (∃ op ∈ ops, op.verb ≠ .delete ∧ op.positional? = some list) →
    Hoisted list ops order
  -- All other deletes, which nothing else follows.
  trailing : order.Pairwise fun a b => a.trails ops = true → b.trails ops = true
  descends : order.Pairwise fun a b => a.trails ops = true → b.trails ops = true →
    OrderKey.le b.orderKey a.orderKey
  inTurnLast : ∀ key, order.filter (fun op => op.trails ops && op.orderKey = key) =
    ops.filter fun op => op.trails ops && op.orderKey = key

-- What lies in something is made after it and removed before it.
structure Nested (order : List Operation) : Prop where
  made : ∀ pair ∈ Section.containment, order.Pairwise fun a b =>
    a.verb ≠ .delete → b.verb ≠ .delete → ¬(a.kind = pair.2 ∧ b.kind = pair.1)
  removed : ∀ pair ∈ Section.containment, order.Pairwise fun a b =>
    a.verb = .delete → b.verb = .delete → ¬(a.kind = pair.1 ∧ b.kind = pair.2)

variable {ops : List Operation} {list : PositionalList}

theorem ascending_filter (ops : List Operation) (p : Operation → Bool) :
    ascending (ops.filter p) = (ascending ops).filter p := by
  refine mergeSort_filter ?_ ?_ ops p
  · exact fun _ _ _ ab bc => OrderKey.le_trans ab bc
  · exact fun _ _ => OrderKey.le_total _ _

theorem descending_filter (ops : List Operation) (p : Operation → Bool) :
    descending (ops.filter p) = (descending ops).filter p := by
  refine mergeSort_filter ?_ ?_ ops p
  · exact fun _ _ _ ba cb => OrderKey.le_trans cb ba
  · exact fun _ _ => OrderKey.le_total _ _

theorem ascending_again (ops : List Operation) : ascending (ascending ops) = ascending ops :=
  List.mergeSort_of_pairwise (pairwise_ascending ops)

theorem descending_again (ops : List Operation) : descending (descending ops) = descending ops :=
  List.mergeSort_of_pairwise (pairwise_descending ops)

theorem filter_ascending (ops : List Operation) {p : Operation → Bool}
    (agree : ∀ a b, p a = true → p b = true → a.orderKey = b.orderKey) :
    (ascending ops).filter p = ops.filter p := by
  refine filter_mergeSort ?_ ?_ ops ?_
  · exact fun _ _ _ ab bc => OrderKey.le_trans ab bc
  · exact fun _ _ => OrderKey.le_total _ _
  · exact fun a b first second => OrderKey.le_of_eq (agree a b first second)

theorem filter_descending (ops : List Operation) {p : Operation → Bool}
    (agree : ∀ a b, p a = true → p b = true → a.orderKey = b.orderKey) :
    (descending ops).filter p = ops.filter p := by
  refine filter_mergeSort ?_ ?_ ops ?_
  · exact fun _ _ _ ba cb => OrderKey.le_trans cb ba
  · exact fun _ _ => OrderKey.le_total _ _
  · exact fun a b first second => OrderKey.le_of_eq (agree a b first second).symm

-- Of equal keys creates come first, and both as they came.
theorem filter_merged (ops : List Operation) (key : OrderKey) :
    (ofList ops).merged.filter (·.orderKey = key) =
      ops.filter (fun op => op.verb = .create && op.orderKey = key) ++
        ops.filter fun op => op.verb = .update && op.orderKey = key := by
  have agree : ∀ a b : Operation, decide (a.orderKey = key) = true →
      decide (b.orderKey = key) = true → a.orderKey = b.orderKey := by
    intro a b first second
    rw [of_decide_eq_true first, of_decide_eq_true second]
  rw [merged, filter_ascending _ agree, List.filter_append, ofList,
    filter_ascending _ agree, filter_ascending _ agree, List.filter_filter, List.filter_filter]
  congr 1 <;> exact List.filter_congr fun op _ => Bool.and_comm ..

theorem verb_of_mem_merged {op : Operation} (mem : op ∈ (ofList ops).merged) :
    op.verb ≠ .delete := by
  have kept := (merged_perm ops).subset mem
  simpa using (List.mem_filter.mp kept).2

theorem verb_of_mem_deletes {op : Operation} (mem : op ∈ (ofList ops).deletes) :
    op.verb = .delete := by
  have kept := (descending_perm _).subset mem
  simpa using (List.mem_filter.mp kept).2

theorem touched_merged (op : Operation) :
    touched (ofList ops).merged op = touched (ops.filter (·.verb ≠ .delete)) op := by
  rw [touched, touched, (merged_perm ops).any_eq]

-- What is put in front of the operations is all that is added to them.
theorem filter_hoist_of_not {p : Operation → Bool} {deletes : List Operation}
    (none : ∀ op ∈ deletes, p op = false) (ops : List Operation) :
    (hoist deletes ops).filter p = ops.filter p := by
  induction ops generalizing deletes with
  | nil => simpa [hoist] using none
  | cons op rest ih =>
    cases place : op.positional? with
    | none => rw [hoist_none _ _ _ place, List.filter_cons, List.filter_cons, ih none]
    | some list =>
      have now : (deletes.filter (·.worksOn list)).filter p = [] := by
        rw [List.filter_eq_nil_iff]
        intro d mem
        simp [none d (List.mem_filter.mp mem).1]
      have later : ∀ d ∈ deletes.filter (!·.worksOn list), p d = false :=
        fun d mem => none d (List.mem_filter.mp mem).1
      rw [hoist_some _ _ _ place, List.filter_append, now, List.nil_append, List.filter_cons,
        List.filter_cons, ih later]

-- The deletes on a list stand where the first operation on that list is.
theorem hoist_together (deletes : List Operation) {ops : List Operation}
    (found : ∃ op ∈ ops, op.positional? = some list) :
    ∃ before first after, hoist deletes ops =
        before ++ deletes.filter (·.worksOn list) ++ first :: after ∧
      first ∈ ops ∧ first.positional? = some list ∧ ∀ op ∈ before, op.positional? ≠ some list := by
  induction ops generalizing deletes with
  | nil =>
    obtain ⟨op, absent, -⟩ := found
    cases absent
  | cons op rest ih =>
    by_cases here : op.positional? = some list
    · exact ⟨[], op, _, hoist_some _ _ _ here, List.mem_cons_self .., here, by simp⟩
    · have further : ∃ next ∈ rest, next.positional? = some list := by
        obtain ⟨next, mem, on⟩ := found
        rcases List.mem_cons.mp mem with rfl | later
        · exact absurd on here
        · exact ⟨next, later, on⟩
      cases place : op.positional? with
      | none =>
        obtain ⟨before, first, after, split, mem, on, apart⟩ := ih deletes further
        refine ⟨op :: before, first, after, ?_, List.mem_cons_of_mem _ mem, on, ?_⟩
        · rw [hoist_none _ _ _ place, split]
          rfl
        · intro d mem
          rcases List.mem_cons.mp mem with rfl | earlier
          · exact here
          · exact apart d earlier
      | some other =>
        have ne : other ≠ list := fun same => here (same ▸ place)
        obtain ⟨before, first, after, split, mem, on, apart⟩ :=
          ih (deletes.filter (!·.worksOn other)) further
        rw [List.filter_filter, filter_elsewhere ne] at split
        refine ⟨deletes.filter (·.worksOn other) ++ op :: before, first, after, ?_,
          List.mem_cons_of_mem _ mem, on, ?_⟩
        · rw [hoist_some _ _ _ place, split]
          simp only [List.append_assoc, List.cons_append]
        · intro d mem both
          rcases List.mem_append.mp mem with now | later
          · exact ne (Operation.worksOn_unique (List.mem_filter.mp now).2
              (Operation.worksOn_iff.mpr both))
          · rcases List.mem_cons.mp later with rfl | earlier
            · exact here both
            · exact apart d earlier both

-- Deletes each of which is on a list that some operation works on.
def Placed (deletes ops : List Operation) : Prop :=
  ∀ d ∈ deletes, ∃ list, d.positional? = some list ∧ ∃ op ∈ ops, op.positional? = some list

section

variable {deletes rest : List Operation} {op : Operation}

theorem Placed.eq_nil (placed : Placed deletes []) : deletes = [] := by
  rw [List.eq_nil_iff_forall_not_mem]
  intro d mem
  obtain ⟨list, -, op, absent, -⟩ := placed d mem
  cases absent

theorem Placed.skip (placed : Placed deletes (op :: rest)) (place : op.positional? = none) :
    Placed deletes rest := by
  intro d mem
  obtain ⟨list, there, next, found, on⟩ := placed d mem
  rcases List.mem_cons.mp found with rfl | later
  · cases place.symm.trans on
  · exact ⟨list, there, next, later, on⟩

-- Those on the list of the first operation are put before it, all others after it.
theorem Placed.later (placed : Placed deletes (op :: rest)) (place : op.positional? = some list) :
    Placed (deletes.filter (!·.worksOn list)) rest := by
  intro d mem
  obtain ⟨mem, off⟩ := List.mem_filter.mp mem
  obtain ⟨other, there, next, found, on⟩ := placed d mem
  rcases List.mem_cons.mp found with rfl | later
  · cases place.symm.trans on
    simp [Operation.worksOn, there] at off
  · exact ⟨other, there, next, later, on⟩

theorem placed_touched (deletes ops : List Operation) :
    Placed (deletes.filter (touched ops)) ops := by
  intro d mem
  have lists := (List.mem_filter.mp mem).2
  simp only [touched, Bool.and_eq_true, Option.isSome_iff_exists, List.any_eq_true,
    decide_eq_true_eq] at lists
  obtain ⟨⟨list, place⟩, op, found, on⟩ := lists
  exact ⟨list, place, op, found, on.trans place⟩

end

-- All that comes before the deletes at the end.
def leading (s : Schedule) : List Operation := hoist (s.deletes.filter (touched s.merged)) s.merged

theorem ordered_eq (ops : List Operation) :
    (ofList ops).ordered = (ofList ops).leading ++ (ofList ops).deletes.filter (·.trails ops) := by
  have last : (ofList ops).deletes.filter (not ∘ touched (ofList ops).merged) =
      (ofList ops).deletes.filter (·.trails ops) := by
    refine List.filter_congr fun op mem => ?_
    simp [Operation.trails, verb_of_mem_deletes mem, touched_merged]
  simp only [ordered, leading, List.partition_eq_filter_filter, last]

theorem trails_of_mem_leading {op : Operation} (mem : op ∈ (ofList ops).leading) :
    op.trails ops = false := by
  rcases List.mem_append.mp ((hoist_perm ..).subset mem) with hoisted | merged
  · have lists := (List.mem_filter.mp hoisted).2
    rw [touched_merged] at lists
    rw [Operation.trails, lists, Bool.not_true, Bool.and_false]
  · simp [Operation.trails, verb_of_mem_merged merged]

theorem filter_trails (ops : List Operation) :
    (ofList ops).ordered.filter (·.trails ops) = (ofList ops).deletes.filter (·.trails ops) := by
  have none : (ofList ops).leading.filter (·.trails ops) = [] := by
    rw [List.filter_eq_nil_iff]
    intro op mem
    simp [trails_of_mem_leading mem]
  rw [ordered_eq, List.filter_append, none, List.nil_append, List.filter_filter]
  exact List.filter_congr fun op _ => Bool.and_self _

theorem filter_not_delete (ops : List Operation) :
    (ofList ops).ordered.filter (·.verb ≠ .delete) = (ofList ops).merged := by
  have deletes : ∀ op ∈ (ofList ops).deletes, decide (op.verb ≠ .delete) = false :=
    fun op mem => by simp [verb_of_mem_deletes mem]
  have last : ((ofList ops).deletes.filter (·.trails ops)).filter (·.verb ≠ .delete) = [] := by
    rw [List.filter_eq_nil_iff]
    intro op mem
    simp [deletes op (List.mem_filter.mp mem).1]
  rw [ordered_eq, List.filter_append, last, List.append_nil, leading,
    filter_hoist_of_not fun op mem => deletes op (List.mem_filter.mp mem).1]
  exact List.filter_eq_self.mpr fun op mem => by simpa using verb_of_mem_merged mem

-- Creates, and likewise updates, come in the order of their keys.
theorem filter_verb (ops : List Operation) {verb : Verb} (other : verb ≠ .delete) :
    (ofList ops).ordered.filter (·.verb = verb) = ascending (ops.filter (·.verb = verb)) := by
  have entries : (ofList ops).ordered.filter (·.verb = verb) =
      (ofList ops).merged.filter (·.verb = verb) := by
    rw [← filter_not_delete, List.filter_filter]
    refine List.filter_congr fun op _ => ?_
    by_cases same : op.verb = verb
    · simp [same, other]
    · simp [same]
  have own : ∀ kind : Verb, (ascending (ops.filter (·.verb = kind))).filter (·.verb = verb) =
      if kind = verb then ascending (ops.filter (·.verb = verb)) else [] := by
    intro kind
    rw [ascending_filter, ascending_filter, List.filter_filter]
    split
    · rename_i same
      simp [same]
    · rename_i apart
      rw [List.filter_eq_nil_iff]
      intro op _ both
      simp only [Bool.and_eq_true, decide_eq_true_eq] at both
      exact apart (both.2.symm.trans both.1)
  rw [entries, merged, ← ascending_filter, List.filter_append, ofList, own, own]
  cases verb with
  | create => simpa using ascending_again _
  | update => simpa using ascending_again _
  | delete => exact absurd rfl other

theorem filter_removesFrom (list : PositionalList) (ops : List Operation) :
    (ofList ops).ordered.filter (·.removesFrom list) =
      (ofList ops).deletes.filter (·.worksOn list) := by
  have split : ∀ all : List Operation, all.filter (·.removesFrom list) =
      (all.filter (·.worksOn list)).filter (·.verb = .delete) := fun all => by
    rw [List.filter_filter]
    rfl
  have kept : ((ofList ops).deletes.filter (·.worksOn list)).filter (·.verb = .delete) =
      (ofList ops).deletes.filter (·.worksOn list) :=
    List.filter_eq_self.mpr fun op mem => by
      simpa using verb_of_mem_deletes (List.mem_filter.mp mem).1
  have none : ((ofList ops).merged.filter (·.worksOn list)).filter (·.verb = .delete) = [] := by
    rw [List.filter_eq_nil_iff]
    intro op mem
    simpa using verb_of_mem_merged (List.mem_filter.mp mem).1
  rw [split, filter_ordered, List.filter_append, kept, none, List.append_nil]

theorem ordered_ascends (ops : List Operation) :
    (ofList ops).ordered.Pairwise fun a b => a.verb ≠ .delete → b.verb ≠ .delete →
      OrderKey.le a.orderKey b.orderKey := by
  have sorted := pairwise_ascending ((ofList ops).creates ++ (ofList ops).updates)
  change (ofList ops).merged.Pairwise _ at sorted
  rw [← filter_not_delete] at sorted
  exact (List.pairwise_filter.mp sorted).imp fun le a b => le (by simpa using a) (by simpa using b)

-- Two that agree in their keys are next to each other once all others are left out.
theorem ordered_createsFirst (ops : List Operation) :
    (ofList ops).ordered.Pairwise fun a b => a.verb = .update → b.verb = .create →
      a.orderKey ≠ b.orderKey := by
  rw [List.pairwise_iff_forall_sublist]
  intro a b sub update create same
  have agree : [a, b].Sublist ((ofList ops).merged.filter (·.orderKey = b.orderKey)) := by
    have kept := (sub.filter (·.verb ≠ .delete)).filter (·.orderKey = b.orderKey)
    rw [filter_not_delete] at kept
    simpa [update, create, same] using kept
  have creates : ((ofList ops).merged.filter (·.orderKey = b.orderKey)).Pairwise
      fun a b => ¬(a.verb = .update ∧ b.verb = .create) := by
    rw [filter_merged, List.pairwise_append]
    refine ⟨?_, ?_, ?_⟩
    · refine List.pairwise_filter.mpr (List.pairwise_of_forall fun a b first _ both => ?_)
      simp [both.1] at first
    · refine List.pairwise_filter.mpr (List.pairwise_of_forall fun a b _ second both => ?_)
      simp [both.2] at second
    · intro a first b _ both
      have create := (List.mem_filter.mp first).2
      simp [both.1] at create
  exact List.pairwise_iff_forall_sublist.mp creates agree ⟨update, create⟩

theorem ordered_inTurn (ops : List Operation) (verb : Verb) (key : OrderKey)
    (other : verb ≠ .delete) :
    (ofList ops).ordered.filter (fun op => op.verb = verb && op.orderKey = key) =
      ops.filter fun op => op.verb = verb && op.orderKey = key := by
  have agree : ∀ a b : Operation, decide (a.orderKey = key) = true →
      decide (b.orderKey = key) = true → a.orderKey = b.orderKey := by
    intro a b first second
    rw [of_decide_eq_true first, of_decide_eq_true second]
  have split : ∀ all : List Operation,
      all.filter (fun op => op.verb = verb && op.orderKey = key) =
        (all.filter (·.verb = verb)).filter (·.orderKey = key) := by
    intro all
    rw [List.filter_filter]
    exact List.filter_congr fun op _ => Bool.and_comm ..
  rw [split, split, filter_verb ops other, filter_ascending _ agree]

theorem ordered_hoisted (found : ∃ op ∈ ops, op.verb ≠ .delete ∧ op.positional? = some list) :
    Hoisted list ops (ofList ops).ordered := by
  have entry : ∃ op ∈ (ofList ops).merged, op.positional? = some list := by
    obtain ⟨op, mem, other, on⟩ := found
    exact ⟨op, (merged_perm ops).symm.subset (List.mem_filter.mpr ⟨mem, by simpa using other⟩), on⟩
  have all : ((ofList ops).deletes.filter (touched (ofList ops).merged)).filter (·.worksOn list) =
      (ofList ops).deletes.filter (·.worksOn list) := by
    rw [List.filter_filter]
    refine List.filter_congr fun op _ => ?_
    cases on : op.worksOn list with
    | false => rfl
    | true =>
      rw [Operation.worksOn_iff] at on
      simpa [touched, on] using entry
  refine ⟨?_, ?_, ?_⟩
  · obtain ⟨before, first, after, split, mem, on, apart⟩ :=
      hoist_together ((ofList ops).deletes.filter (touched (ofList ops).merged)) entry
    refine ⟨before, first, after ++ (ofList ops).deletes.filter (·.trails ops), ?_,
      verb_of_mem_merged mem, on, apart⟩
    rw [filter_removesFrom, ordered_eq, leading, split, all]
    simp only [List.append_assoc, List.cons_append]
  · rw [filter_removesFrom]
    have sorted := (pairwise_descending (ops.filter (·.verb = .delete))).filter (·.worksOn list)
    refine sorted.imp_of_mem fun {a b} first second le => ?_
    have here := Operation.worksOn_iff.mp (List.mem_filter.mp first).2
    have there := Operation.worksOn_iff.mp (List.mem_filter.mp second).2
    rw [Operation.orderKey_of_positional here, Operation.orderKey_of_positional there,
      OrderKey.le_iff] at le
    simpa using le
  · intro index
    have agree : ∀ a b : Operation, (a.address.index? = some index && a.worksOn list) = true →
        (b.address.index? = some index && b.worksOn list) = true → a.orderKey = b.orderKey := by
      intro a b first second
      rw [Bool.and_eq_true, decide_eq_true_eq] at first second
      rw [Operation.orderKey_of_positional (Operation.worksOn_iff.mp first.2),
        Operation.orderKey_of_positional (Operation.worksOn_iff.mp second.2), first.1, second.1]
    have split : (ofList ops).ordered.filter
        (fun op => op.removesFrom list && op.address.index? = some index) =
          ((ofList ops).ordered.filter (·.removesFrom list)).filter
            (·.address.index? = some index) := by
      rw [List.filter_filter]
      exact List.filter_congr fun op _ => Bool.and_comm ..
    rw [split, filter_removesFrom, List.filter_filter, ofList, filter_descending _ agree,
      List.filter_filter]
    refine List.filter_congr fun op _ => ?_
    rw [Operation.removesFrom]
    ac_rfl

theorem ordered_trailing (ops : List Operation) : (ofList ops).ordered.Pairwise
    fun a b => a.trails ops = true → b.trails ops = true := by
  rw [ordered_eq, List.pairwise_append]
  have last : ∀ op ∈ (ofList ops).deletes.filter (·.trails ops), op.trails ops = true :=
    fun op mem => (List.mem_filter.mp mem).2
  refine ⟨?_, ?_, fun _ _ b mem _ => last b mem⟩
  · rw [List.pairwise_iff_forall_sublist]
    intro a b sub trails
    rw [trails_of_mem_leading (sub.subset (List.mem_cons_self ..))] at trails
    cases trails
  · rw [List.pairwise_iff_forall_sublist]
    intro a b sub _
    exact last b (sub.subset (List.mem_cons_of_mem _ (List.mem_cons_self ..)))

theorem ordered_descends (ops : List Operation) : (ofList ops).ordered.Pairwise fun a b =>
    a.trails ops = true → b.trails ops = true → OrderKey.le b.orderKey a.orderKey := by
  have sorted := (pairwise_descending (ops.filter (·.verb = .delete))).filter (·.trails ops)
  change ((ofList ops).deletes.filter (·.trails ops)).Pairwise _ at sorted
  rw [← filter_trails] at sorted
  exact List.pairwise_filter.mp sorted

theorem ordered_inTurnLast (ops : List Operation) (key : OrderKey) :
    (ofList ops).ordered.filter (fun op => op.trails ops && op.orderKey = key) =
      ops.filter fun op => op.trails ops && op.orderKey = key := by
  have agree : ∀ a b : Operation, (a.orderKey = key && a.trails ops) = true →
      (b.orderKey = key && b.trails ops) = true → a.orderKey = b.orderKey := by
    intro a b first second
    rw [Bool.and_eq_true, decide_eq_true_eq] at first second
    rw [first.1, second.1]
  have split : (ofList ops).ordered.filter (fun op => op.trails ops && op.orderKey = key) =
      ((ofList ops).ordered.filter (·.trails ops)).filter (·.orderKey = key) := by
    rw [List.filter_filter]
    exact List.filter_congr fun op _ => Bool.and_comm ..
  rw [split, filter_trails, List.filter_filter]
  simp only [ofList]
  rw [filter_descending _ agree, List.filter_filter]
  refine List.filter_congr fun op _ => ?_
  cases verb : op.verb <;> simp [Operation.trails, verb, Bool.and_comm]

theorem ordered_arranged (ops : List Operation) : Arranged ops (ofList ops).ordered where
  whole := ordered_perm ops
  ascends := ordered_ascends ops
  createsFirst := ordered_createsFirst ops
  inTurn := ordered_inTurn ops
  hoisted := fun _ => ordered_hoisted
  trailing := ordered_trailing ops
  descends := ordered_descends ops
  inTurnLast := ordered_inTurnLast ops

theorem rank_le_of_orderKey {a b : Operation} (le : OrderKey.le a.orderKey b.orderKey) :
    a.kind.tier.rank ≤ b.kind.tier.rank := by
  rcases OrderKey.le_iff.mp le with less | ⟨same, -⟩
  · exact Nat.le_of_lt less
  · exact Nat.le_of_eq same

-- A delete that has no position is never moved ahead.
theorem trails_of_unpositioned {op : Operation} (deleted : op.verb = .delete)
    (place : op.positional? = none) : op.trails ops = true := by
  simp [Operation.trails, deleted, touched, place]

theorem Arranged.nested {order : List Operation} (arranged : Arranged ops order)
    (fits : ∀ op ∈ ops, op.Fits) : Nested order := by
  refine ⟨fun pair within => ?_, fun pair within => ?_⟩
  · refine arranged.ascends.imp fun {a b} le first second both => ?_
    have rank := rank_le_of_orderKey (le first second)
    have below := Section.tier_lt_of_containment pair within
    rw [both.1, both.2] at rank
    omega
  · -- A holder is deleted at the end, so that nothing after it has been moved ahead either.
    refine (arranged.trailing.and arranged.descends).imp_of_mem ?_
    rintro a b mem - ⟨trailing, descends⟩ first second ⟨holder, held⟩
    have place : a.positional? = none := by
      rw [Option.eq_none_iff_forall_ne_some]
      intro list on
      obtain ⟨-, index, address⟩ := Operation.positional?_eq_some.mp on
      have shape := fits a (arranged.whole.subset mem)
      rw [Operation.Fits, address, holder] at shape
      exact Section.shape_of_containment pair within shape.symm
    have last : a.trails ops = true := trails_of_unpositioned first place
    have rank := rank_le_of_orderKey (descends last (trailing last))
    have below := Section.tier_lt_of_containment pair within
    rw [holder, held] at rank
    omega

-- The order of a batch keeps to it, and, where all addresses are of the right kind, to what lies
-- in what.
theorem order_law (ops : List Operation) : Arranged ops (ofList ops).ordered ∧
    ((∀ op ∈ ops, op.Fits) → Nested (ofList ops).ordered) :=
  ⟨ordered_arranged ops, (ordered_arranged ops).nested⟩

-- Deletes a backend with its contents, and replaces a rule of a frontend that is also changed.
def replacedRule : List Operation :=
  let rule : Option Payload := some ⟨none, .ok []⟩
  [⟨.delete, .backend, .named "old", none⟩,
    ⟨.create, .httpRequestRule, .indexed ⟨.frontend, "web"⟩ 0, rule⟩,
    ⟨.delete, .server, .child ⟨.backend, "old"⟩ "s1", none⟩,
    ⟨.delete, .httpRequestRule, .indexed ⟨.frontend, "web"⟩ 1, none⟩,
    ⟨.delete, .httpRequestRule, .indexed ⟨.backend, "old"⟩ 0, none⟩,
    ⟨.update, .frontend, .named "web", rule⟩]

theorem replacedRule_order_law : (∀ op ∈ replacedRule, op.Fits) ∧
    (ofList replacedRule).ordered.map (fun op => (op.verb, op.kind)) =
      [(.update, .frontend), (.delete, .httpRequestRule), (.create, .httpRequestRule),
        (.delete, .httpRequestRule), (.delete, .server), (.delete, .backend)] ∧
    Nested (ofList replacedRule).ordered := by
  have fits : ∀ op ∈ replacedRule, op.Fits := by
    simp [replacedRule, Operation.Fits, Address.shape, Section.shape, Section.traits, Traits.top,
      Traits.indexed, Traits.child]
  exact ⟨fits, by cbv, (order_law replacedRule).2 fits⟩

end Schedule
end Reconcile
