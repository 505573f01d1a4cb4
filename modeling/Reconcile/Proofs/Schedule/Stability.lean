import Reconcile.Proofs.Schedule.Arrangement

namespace Reconcile

theorem OrderKey.le_antisymm {a b : OrderKey} (ab : OrderKey.le a b) (ba : OrderKey.le b a) :
    a = b := by
  rw [OrderKey.le_iff] at ab ba
  exact Prod.ext (by omega) (by omega)

namespace Schedule

variable {deletes deletes' ops : List Operation} {keep : Operation → Bool}

theorem deletes_filter (ops : List Operation) (p : Operation → Bool) :
    (ofList ops).deletes.filter p =
      descending (ops.filter fun op => p op && op.verb = .delete) := by
  rw [ofList, ← descending_filter, List.filter_filter]

-- Only the order of the deletes on each list matters, not how those of different lists are mixed.
theorem hoist_congr (placed : Placed deletes ops) (placed' : Placed deletes' ops)
    (alike : ∀ list, deletes.filter (·.worksOn list) = deletes'.filter (·.worksOn list)) :
    hoist deletes ops = hoist deletes' ops := by
  induction ops generalizing deletes deletes' with
  | nil => rw [placed.eq_nil, placed'.eq_nil]
  | cons op rest ih =>
    cases place : op.positional? with
    | none =>
      rw [hoist_none _ _ _ place, hoist_none _ _ _ place,
        ih (placed.skip place) (placed'.skip place) alike]
    | some list =>
      rw [hoist_some _ _ _ place, hoist_some _ _ _ place, alike list,
        ih (placed.later place) (placed'.later place)]
      intro other
      rw [List.filter_comm, alike other, List.filter_comm]

-- A rearrangement that exchanges only what is equal in its key.
structure Exchanged (one other : List Operation) : Prop where
  perm : one.Perm other
  keys : one.map (·.orderKey) = other.map (·.orderKey)

theorem creates_ordered (ops : List Operation) :
    (ofList (ofList ops).ordered).creates = (ofList ops).creates := by
  change ascending ((ofList ops).ordered.filter (·.verb = .create)) = _
  rw [filter_verb ops (by decide), ascending_again, ofList]

theorem updates_ordered (ops : List Operation) :
    (ofList (ofList ops).ordered).updates = (ofList ops).updates := by
  change ascending ((ofList ops).ordered.filter (·.verb = .update)) = _
  rw [filter_verb ops (by decide), ascending_again, ofList]

theorem merged_ordered (ops : List Operation) :
    (ofList (ofList ops).ordered).merged = (ofList ops).merged := by
  rw [merged, merged, creates_ordered, updates_ordered]

-- The deletes on a list, and those at the end, have been put in their order before.
theorem deletes_ordered_filter (ops : List Operation) (p : Operation → Bool)
    (sorted : (ofList ops).ordered.filter (fun op => p op && op.verb = .delete) =
      (ofList ops).deletes.filter p) :
    (ofList (ofList ops).ordered).deletes.filter p = (ofList ops).deletes.filter p := by
  rw [deletes_filter, sorted, deletes_filter, descending_again]

theorem deletes_exchanged (ops : List Operation) :
    Exchanged (ofList (ofList ops).ordered).deletes (ofList ops).deletes := by
  have perm : (ofList (ofList ops).ordered).deletes.Perm (ofList ops).deletes :=
    (descending_perm _).trans (((ordered_perm ops).filter _).trans (descending_perm _).symm)
  have falls (s : List Operation) :
      ((descending s).map (·.orderKey)).Pairwise fun a b => OrderKey.le b a :=
    List.pairwise_map.mpr (pairwise_descending s)
  refine ⟨perm, (perm.map _).eq_of_pairwise ?_ (falls _) (falls _)⟩
  exact fun a b _ _ ba ab => OrderKey.le_antisymm ab ba

theorem trails_ordered (ops : List Operation) (op : Operation) :
    op.trails (ofList ops).ordered = op.trails ops := by
  rw [Operation.trails, Operation.trails, filter_not_delete, touched_merged]

-- A batch that has been put in its order stays in it.
theorem ordered_idempotent (ops : List Operation) :
    (ofList (ofList ops).ordered).ordered = (ofList ops).ordered ∧
      (ofList (ofList ops).ordered).creates = (ofList ops).creates ∧
      (ofList (ofList ops).ordered).updates = (ofList ops).updates ∧
      Exchanged (ofList (ofList ops).ordered).deletes (ofList ops).deletes := by
  refine ⟨?_, creates_ordered ops, updates_ordered ops, deletes_exchanged ops⟩
  have last : (ofList (ofList ops).ordered).deletes.filter (·.trails ops) =
      (ofList ops).deletes.filter (·.trails ops) := by
    refine deletes_ordered_filter ops _ ?_
    rw [← filter_trails]
    refine List.filter_congr fun op _ => ?_
    cases verb : op.verb <;> simp [Operation.trails, verb]
  have hoisted : (ofList (ofList ops).ordered).leading = (ofList ops).leading := by
    rw [leading, leading, merged_ordered]
    refine hoist_congr (placed_touched _ _) (placed_touched _ _) fun list => ?_
    have moved : (ofList (ofList ops).ordered).deletes.filter (·.worksOn list) =
        (ofList ops).deletes.filter (·.worksOn list) := by
      refine deletes_ordered_filter ops _ ?_
      rw [← filter_removesFrom]
      exact List.filter_congr fun op _ => Bool.and_comm ..
    rw [List.filter_comm, moved, List.filter_comm]
  rw [ordered_eq (ofList ops).ordered, hoisted]
  simp only [trails_ordered]
  rw [last, ← ordered_eq]

-- Deletes of one position on two lists, of which the one named last is created into first.
def crossed : List Operation :=
  [⟨.delete, .acl, .indexed ⟨.backend, "api"⟩ 0, none⟩,
    ⟨.delete, .acl, .indexed ⟨.frontend, "web"⟩ 0, none⟩,
    ⟨.create, .acl, .indexed ⟨.frontend, "web"⟩ 0, some ⟨none, .ok []⟩⟩,
    ⟨.create, .acl, .indexed ⟨.backend, "api"⟩ 0, some ⟨none, .ok []⟩⟩]

-- The deletes by themselves do not always come back as they were.
example : (ofList (ofList crossed).ordered).deletes.map (·.address) =
    ((ofList crossed).deletes.map (·.address)).reverse := by cbv

-- Of the operations on each positional list either all are kept or none.
def KeepsLists (keep : Operation → Bool) (ops : List Operation) : Prop :=
  ∀ a ∈ ops, ∀ b ∈ ops, ∀ list, a.positional? = some list → b.positional? = some list →
    keep a = keep b

-- What is kept of the deletes goes before what is kept of the operations, at the same places.
theorem hoist_filter (agree : ∀ d ∈ deletes, ∀ op ∈ ops, ∀ list, d.positional? = some list →
      op.positional? = some list → keep d = keep op) :
    hoist (deletes.filter keep) (ops.filter keep) = (hoist deletes ops).filter keep := by
  induction ops generalizing deletes with
  | nil => rfl
  | cons op rest ih =>
    cases place : op.positional? with
    | none =>
      have onward := ih fun d mem next later => agree d mem next (List.mem_cons_of_mem _ later)
      rw [hoist_none _ _ _ place, List.filter_cons, List.filter_cons, ← onward]
      split
      · rw [hoist_none _ _ _ place]
      · rfl
    | some list =>
      have onward := @ih (deletes.filter (!·.worksOn list)) fun d mem next later =>
        agree d (List.mem_filter.mp mem).1 next (List.mem_cons_of_mem _ later)
      have alike : ∀ d ∈ deletes, d.worksOn list = true → keep d = keep op := fun d mem on =>
        agree d mem op (List.mem_cons_self ..) list (Operation.worksOn_iff.mp on) place
      rw [hoist_some _ _ _ place, List.filter_append, List.filter_cons, List.filter_cons,
        ← onward]
      cases kept : keep op with
      | true =>
        rw [if_pos rfl, if_pos rfl, hoist_some _ _ _ place, List.filter_comm _ keep deletes,
          List.filter_comm _ keep deletes]
      | false =>
        -- No delete on the list is kept, so there is none to be put here or to be left for later.
        have none : (deletes.filter (·.worksOn list)).filter keep = [] := by
          rw [List.filter_eq_nil_iff]
          intro d mem
          obtain ⟨mem, on⟩ := List.mem_filter.mp mem
          rw [alike d mem on, kept]
          exact Bool.false_ne_true
        have all : (deletes.filter (!·.worksOn list)).filter keep = deletes.filter keep := by
          rw [List.filter_filter]
          refine List.filter_congr fun d mem => ?_
          cases on : d.worksOn list with
          | true => simp [alike d mem on, kept]
          | false => simp
        rw [none, all]
        rfl

theorem ofList_filter (ops : List Operation) (keep : Operation → Bool) :
    ofList (ops.filter keep) = ⟨(ofList ops).creates.filter keep,
      (ofList ops).updates.filter keep, (ofList ops).deletes.filter keep⟩ := by
  simp only [ofList, ← ascending_filter, ← descending_filter]
  rw [List.filter_comm _ keep, List.filter_comm _ keep, List.filter_comm _ keep]

theorem merged_filter (ops : List Operation) (keep : Operation → Bool) :
    (ofList (ops.filter keep)).merged = (ofList ops).merged.filter keep := by
  rw [ofList_filter, merged, merged, ← ascending_filter, List.filter_append]

-- What is kept has as much to wait for as before.
theorem touched_filter {d : Operation} (kept : keep d = true)
    (agree : ∀ op ∈ ops, ∀ list, d.positional? = some list → op.positional? = some list →
      keep d = keep op) : touched (ops.filter keep) d = touched ops d := by
  cases place : d.positional? with
  | none => simp [touched, place]
  | some list =>
    rw [Bool.eq_iff_iff]
    simp only [touched, place, Option.isSome_some, Bool.true_and, List.any_eq_true,
      decide_eq_true_eq, List.mem_filter]
    constructor
    · rintro ⟨op, ⟨found, -⟩, on⟩
      exact ⟨op, found, on⟩
    · rintro ⟨op, found, on⟩
      exact ⟨op, ⟨found, agree op found list place on ▸ kept⟩, on⟩

-- Leaving out what works on other lists, or on none, does not change the order of the rest.
theorem ordered_filter (ops : List Operation) (keep : Operation → Bool)
    (whole : KeepsLists keep ops) :
    (ofList (ops.filter keep)).ordered = (ofList ops).ordered.filter keep := by
  have agree : ∀ d ∈ (ofList ops).deletes, ∀ op ∈ (ofList ops).merged, ∀ list,
      d.positional? = some list → op.positional? = some list → keep d = keep op := by
    intro d mem op found
    have deleted := (List.mem_filter.mp ((descending_perm _).subset mem)).1
    have entered := (List.mem_filter.mp ((merged_perm ops).subset found)).1
    exact whole d deleted op entered
  have touching : ∀ d ∈ (ofList ops).deletes.filter keep,
      touched ((ofList ops).merged.filter keep) d = touched (ofList ops).merged d := by
    intro d mem
    obtain ⟨mem, kept⟩ := List.mem_filter.mp mem
    exact touched_filter kept (agree d mem)
  have first := List.filter_congr touching
  have last := List.filter_congr fun d mem => congrArg not (touching d mem)
  have hoisted : hoist (((ofList ops).deletes.filter (touched (ofList ops).merged)).filter keep)
      ((ofList ops).merged.filter keep) = (ofList ops).leading.filter keep :=
    hoist_filter fun d mem => agree d (List.mem_filter.mp mem).1
  simp only [ordered, List.partition_eq_filter_filter, merged_filter, Function.comp_def]
  rw [ofList_filter]
  simp only [first, last]
  rw [List.filter_comm, hoisted, List.filter_comm, ← List.filter_append]
  rfl

-- The frontend of a batch, and the rules of one list.
def ofWeb (op : Operation) : Bool :=
  op.kind = .frontend || op.worksOn ⟨.httpRequestRule, ⟨.frontend, "web"⟩⟩

theorem ofWeb_ordered : KeepsLists ofWeb replacedRule ∧
    (ofList (replacedRule.filter ofWeb)).ordered = (ofList replacedRule).ordered.filter ofWeb ∧
    ((ofList replacedRule).ordered.filter ofWeb).map (fun op => (op.verb, op.address.index?)) =
      [(.update, none), (.delete, some 1), (.create, some 0)] := by
  have whole : KeepsLists ofWeb replacedRule := by
    intro a _ b _ list one two
    rw [ofWeb, ofWeb, (Operation.positional?_eq_some.mp one).1,
      (Operation.positional?_eq_some.mp two).1, Operation.worksOn, Operation.worksOn, one, two]
  exact ⟨whole, ordered_filter replacedRule ofWeb whole, by cbv⟩

end Schedule
end Reconcile
