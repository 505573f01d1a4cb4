import Reconcile.Proofs.Positions.Rearrangement
import Reconcile.Proofs.Schedule.Order
import Reconcile.Proofs.Schedule.Steps
import Reconcile.Proofs.Submission.Prepare
import Reconcile.Submission.Request

namespace Reconcile

-- The list that a request changes, and how, if it names a position.
def Request.edit? (r : Request) : Option (PositionalList × Edit Json) :=
  match r.target with
  | .indexed parent index => some (⟨r.kind, parent⟩, ⟨r.verb, index, r.body.getD .null⟩)
  | _ => none

-- What a server holds in all its positional lists.
abbrev Contents := PositionalList → List Json

namespace Contents

-- Every request is accepted. One that names no position leaves all lists as they are.
def accept (c : Contents) (r : Request) : Contents :=
  match r.edit? with
  | some (list, edit) => fun other => if other = list then edit.apply (c list) else c other
  | none => c

-- An operation carried out in a transaction. One that fails its local checks sends nothing.
def carryOut (id : TransactionId) (c : Contents) (op : Operation) : Contents :=
  match op.prepare true with
  | .ok mutation => c.accept (mutation.request (.staged id))
  | .error _ => c

def carryOutAll (id : TransactionId) (c : Contents) (ops : List Operation) : Contents :=
  ops.foldl (carryOut id) c

end Contents

-- The positions on a list that the operations of one verb name.
def indexesOn (list : PositionalList) (verb : Verb) (ops : List Operation) : List Nat :=
  (ops.filter fun op => op.worksOn list && op.verb = verb).filterMap (·.address.index?)

-- What a batch keeps to on a list of a length: deletes name entries of the list as it was, creates
-- and updates positions of the list as it will be, each of them once.
structure Placed (list : PositionalList) (ops : List Operation) (length : Nat) : Prop where
  deletes : (indexesOn list .delete ops).Nodup
  creates : (indexesOn list .create ops).Nodup
  updates : (indexesOn list .update ops).Nodup
  apart : ∀ i ∈ indexesOn list .update ops, i ∉ indexesOn list .create ops
  present : ∀ i ∈ indexesOn list .delete ops, i < length
  inside : ∀ i ∈ indexesOn list .create ops ++ indexesOn list .update ops,
    i < length - (indexesOn list .delete ops).length + (indexesOn list .create ops).length

-- What an order of a batch makes of a list: every operation finds its position when its turn comes,
-- and in the end its entry stands there, among what remains in its old order.
structure Lands (id : TransactionId) (list : PositionalList) (ops order : List Operation)
    (before : Contents) : Prop where
  inRange : ∀ done op rest, order = done ++ op :: rest → op.positional? = some list →
    ∃ index, op.address.index? = some index ∧
      op.verb.Admits index (before.carryOutAll id done list).length
  entered : ∀ op ∈ ops, op.positional? = some list → op.verb ≠ .delete →
    ∃ index body, op.address.index? = some index ∧ op.body = .ok (some body) ∧
      (before.carryOutAll id order list)[index]? = some body
  rearranged : Rearranged (indexesOn list .delete ops) (indexesOn list .create ops)
    (indexesOn list .update ops) (before list) (before.carryOutAll id order list)

def Operation.edit (op : Operation) : Edit Json :=
  ⟨op.verb, op.address.index?.getD 0, (op.body.toOption.bind id).getD .null⟩

namespace Operation

@[simp] theorem verb_edit (op : Operation) : op.edit.verb = op.verb := rfl

theorem edit?_of_prepare {op : Operation} {inTransaction : Bool} {mutation : Mutation}
    (h : op.prepare inTransaction = .ok mutation) (mode : ApplyMode) :
    (mutation.request mode).edit? = op.positional?.map (·, op.edit) := by
  obtain ⟨_, _, landing, bodied, verb, kind⟩ := prepare_ok h
  obtain ⟨verb', kind', target, body⟩ := mutation
  cases verb
  cases kind
  have entry : op.edit.entry = body.getD .null := by
    simp only at bodied
    simp [edit, bodied, Except.toOption]
  generalize place : op.address = address at landing
  cases landing with
  | indexed _ _ _ =>
    simp [Request.edit?, Mutation.request, positional?, place, ← entry]
    simp [edit, place, Address.index?]
  | _ => simp [Request.edit?, Mutation.request, positional?, place]

theorem indexed_of_prepare {op : Operation} {inTransaction : Bool} {mutation : Mutation}
    (h : op.prepare inTransaction = .ok mutation) {list : PositionalList}
    (on : op.worksOn list = true) : op.kind.shape = .indexedChild := by
  obtain ⟨_, _, landing, _⟩ := prepare_ok h
  obtain ⟨_, index, place⟩ := positional?_eq_some.mp (worksOn_iff.mp on)
  rw [place] at landing
  generalize mutation.target = target at landing
  cases landing
  assumption

theorem index?_of_worksOn {op : Operation} {list : PositionalList} (on : op.worksOn list = true) :
    op.address.index? = some op.edit.index := by
  obtain ⟨_, index, place⟩ := positional?_eq_some.mp (worksOn_iff.mp on)
  simp [edit, place, Address.index?]

end Operation

theorem indexesOn_eq_map (list : PositionalList) (verb : Verb) (ops : List Operation) :
    indexesOn list verb ops =
      (ops.filter fun op => op.worksOn list && op.verb = verb).map (·.edit.index) := by
  rw [indexesOn, ← List.filterMap_eq_map]
  refine List.filterMap_congr fun op mem => ?_
  have both := (List.mem_filter.mp mem).2
  rw [Bool.and_eq_true] at both
  exact Operation.index?_of_worksOn both.1

theorem indexes_edits (list : PositionalList) (verb : Verb) (ops : List Operation) :
    Edit.indexes verb ((ops.filter (·.worksOn list)).map Operation.edit) =
      indexesOn list verb ops := by
  rw [indexesOn_eq_map, Edit.indexes, List.filter_map, List.map_map, List.filter_filter]
  exact congrArg (List.map _) (List.filter_congr fun op _ => Bool.and_comm ..)

theorem indexesOn_perm (list : PositionalList) (verb : Verb) {one two : List Operation}
    (same : one.Perm two) : (indexesOn list verb one).Perm (indexesOn list verb two) :=
  (same.filter _).filterMap _

theorem indexesOn_filter (list : PositionalList) {verb : Verb} (ops : List Operation)
    {p : Operation → Bool} (keeps : ∀ op : Operation, op.verb = verb → p op = true) :
    indexesOn list verb (ops.filter p) = indexesOn list verb ops := by
  rw [indexesOn, List.filter_filter]
  refine congrArg (List.filterMap _) (List.filter_congr fun op _ => ?_)
  by_cases same : op.verb = verb
  · simp [keeps op same]
  · simp [same]

theorem orderKey_le_iff {list : PositionalList} {a b : Operation} (first : a.worksOn list = true)
    (second : b.worksOn list = true) :
    OrderKey.le a.orderKey b.orderKey ↔ a.edit.index ≤ b.edit.index := by
  rw [OrderKey.le_iff, Operation.orderKey_of_positional (Operation.worksOn_iff.mp first),
    Operation.orderKey_of_positional (Operation.worksOn_iff.mp second)]
  simp [Operation.edit]

-- The edits that a batch makes on a list, in their order: first its deletes.
def deletesOn (list : PositionalList) (ops : List Operation) : List (Edit Json) :=
  ((Schedule.ofList ops).deletes.filter (·.worksOn list)).map Operation.edit

def entriesOn (list : PositionalList) (ops : List Operation) : List (Edit Json) :=
  ((Schedule.ofList ops).merged.filter (·.worksOn list)).map Operation.edit

theorem verb_of_mem_deletesOn {list : PositionalList} {ops : List Operation} {e : Edit Json}
    (mem : e ∈ deletesOn list ops) : e.verb = .delete := by
  obtain ⟨op, found, rfl⟩ := List.mem_map.mp mem
  have kept := (Schedule.descending_perm _).subset (List.mem_of_mem_filter found)
  simpa using (List.mem_filter.mp kept).2

theorem verb_of_mem_entriesOn {list : PositionalList} {ops : List Operation} {e : Edit Json}
    (mem : e ∈ entriesOn list ops) : e.verb ≠ .delete := by
  obtain ⟨op, found, rfl⟩ := List.mem_map.mp mem
  have kept := (Schedule.merged_perm ops).subset (List.mem_of_mem_filter found)
  simpa using (List.mem_filter.mp kept).2

theorem deletesOn_indexes (list : PositionalList) (ops : List Operation) :
    ((deletesOn list ops).map (·.index)).Perm (indexesOn list .delete ops) := by
  have all : (deletesOn list ops).map (·.index) = Edit.indexes .delete (deletesOn list ops) := by
    rw [Edit.indexes, List.filter_eq_self.mpr fun e mem => by simp [verb_of_mem_deletesOn mem]]
  rw [all, deletesOn, indexes_edits]
  refine (indexesOn_perm list .delete (Schedule.descending_perm _)).trans (.of_eq ?_)
  exact indexesOn_filter list ops fun op same => by simp [same]

theorem entriesOn_indexes (list : PositionalList) (ops : List Operation) {verb : Verb}
    (other : verb ≠ .delete) :
    (Edit.indexes verb (entriesOn list ops)).Perm (indexesOn list verb ops) := by
  rw [entriesOn, indexes_edits]
  refine (indexesOn_perm list verb (Schedule.merged_perm ops)).trans (.of_eq ?_)
  exact indexesOn_filter list ops fun op same => by simp [same, other]

theorem deletesOn_descending {list : PositionalList} {ops : List Operation}
    (distinct : (indexesOn list .delete ops).Nodup) :
    ((deletesOn list ops).map (·.index)).Pairwise (fun i j => j < i) := by
  have weak : ((deletesOn list ops).map (·.index)).Pairwise (fun i j => j ≤ i) := by
    rw [deletesOn, List.map_map, List.pairwise_map]
    refine ((Schedule.pairwise_descending _).filter _).imp_of_mem fun {a b} first second le => ?_
    exact (orderKey_le_iff (List.mem_filter.mp second).2 (List.mem_filter.mp first).2).mp le
  have strict := (deletesOn_indexes list ops).nodup_iff.mpr distinct
  exact weak.imp₂ (fun i j le ne => Nat.lt_of_le_of_ne le ne.symm) strict

theorem entriesOn_ascending {list : PositionalList} {ops : List Operation}
    (creates : (indexesOn list .create ops).Nodup) (updates : (indexesOn list .update ops).Nodup)
    (apart : ∀ i ∈ indexesOn list .update ops, i ∉ indexesOn list .create ops) :
    ((entriesOn list ops).map (·.index)).Pairwise (· < ·) := by
  have weak : ((entriesOn list ops).map (·.index)).Pairwise (· ≤ ·) := by
    rw [entriesOn, List.map_map, List.pairwise_map]
    refine ((Schedule.pairwise_ascending _).filter _).imp_of_mem fun {a b} first second le => ?_
    exact (orderKey_le_iff (List.mem_filter.mp first).2 (List.mem_filter.mp second).2).mp le
  have parts : (Edit.indexes .create (entriesOn list ops) ++
      Edit.indexes .update (entriesOn list ops)).Perm ((entriesOn list ops).map (·.index)) := by
    have split := (List.filter_append_perm (fun e : Edit Json => decide (e.verb = .create))
      (entriesOn list ops)).map (·.index)
    have others : (entriesOn list ops).filter (fun e => !decide (e.verb = .create)) =
        (entriesOn list ops).filter (·.verb = .update) := by
      refine List.filter_congr fun e mem => ?_
      have other := verb_of_mem_entriesOn mem
      cases verb : e.verb with
      | delete => exact absurd verb other
      | _ => rfl
    rw [List.map_append, others] at split
    exact split
  have strict : ((entriesOn list ops).map (·.index)).Nodup := by
    rw [← parts.nodup_iff, List.nodup_append]
    have one := entriesOn_indexes list ops (nofun : Verb.create ≠ .delete)
    have two := entriesOn_indexes list ops (nofun : Verb.update ≠ .delete)
    refine ⟨one.nodup_iff.mpr creates, two.nodup_iff.mpr updates, ?_⟩
    intro i first j second same
    exact apart j (two.subset second) (one.subset (same ▸ first))
  exact weak.imp₂ (fun i j le ne => Nat.lt_of_le_of_ne le ne) strict

namespace Contents

theorem carryOutAll_apply (id : TransactionId) (list : PositionalList) (c : Contents)
    (ops : List Operation) (prepared : ∀ op ∈ ops, ∃ mutation, op.prepare true = .ok mutation) :
    c.carryOutAll id ops list =
      Edit.run (c list) ((ops.filter (·.worksOn list)).map Operation.edit) := by
  induction ops generalizing c with
  | nil => rfl
  | cons op rest ih =>
    obtain ⟨mutation, passed⟩ := prepared op (List.mem_cons_self ..)
    have step : c.carryOut id op = c.accept (mutation.request (.staged id)) := by
      simp [carryOut, passed]
    have later := ih (c.carryOut id op) fun op mem => prepared op (List.mem_cons_of_mem _ mem)
    have split : c.carryOutAll id (op :: rest) = (c.carryOut id op).carryOutAll id rest := rfl
    rw [split, later, List.filter_cons]
    have edited := Operation.edit?_of_prepare passed (.staged id)
    cases on : op.worksOn list with
    | true =>
      rw [Operation.worksOn_iff.mp on] at edited
      simp [step, accept, edited, Edit.run]
    | false =>
      have apart : c.carryOut id op list = c list := by
        rw [step, accept, edited]
        cases place : op.positional? with
        | none => rfl
        | some other =>
          have ne : list ≠ other := fun same => by
            simp [Operation.worksOn, place, same] at on
          simp [ne]
      simp [apart]

theorem inRange_of_sound {id : TransactionId} {list : PositionalList} {c : Contents}
    {order : List Operation} (prepared : ∀ op ∈ order, ∃ mutation, op.prepare true = .ok mutation)
    (sound : Edit.Sound (c list) ((order.filter (·.worksOn list)).map Operation.edit))
    {done rest : List Operation} {op : Operation} (split : order = done ++ op :: rest)
    (on : op.worksOn list = true) :
    op.verb.Admits op.edit.index (c.carryOutAll id done list).length := by
  subst split
  rw [List.filter_append, List.filter_cons, if_pos on, List.map_append, List.map_cons,
    Edit.sound_append] at sound
  rw [carryOutAll_apply id list c done fun op mem => prepared op (List.mem_append_left _ mem)]
  exact sound.2.1

end Contents

theorem lands_of_filter {id : TransactionId} {list : PositionalList} {ops order : List Operation}
    {before : Contents} (prepared : ∀ op ∈ ops, ∃ mutation, op.prepare true = .ok mutation)
    (placed : Placed list ops (before list).length) (same : order.Perm ops)
    (sorted : (order.filter (·.worksOn list)).map Operation.edit =
      deletesOn list ops ++ entriesOn list ops) :
    Lands id list ops order before := by
  have prepared' : ∀ op ∈ order, ∃ mutation, op.prepare true = .ok mutation :=
    fun op mem => prepared op (same.subset mem)
  have gone := deletesOn_indexes list ops
  have added := entriesOn_indexes list ops (nofun : Verb.create ≠ .delete)
  have changed := entriesOn_indexes list ops (nofun : Verb.update ≠ .delete)
  obtain ⟨soundDeletes, thinned⟩ := Edit.run_descending (l := before list)
    (fun e mem => verb_of_mem_deletesOn mem) (deletesOn_descending placed.deletes)
    (fun e mem => placed.present _ (gone.subset (List.mem_map_of_mem mem)))
  have left := thinned.length
  rw [gone.length_eq] at left
  have inside : ∀ e ∈ entriesOn list ops, e.index < (Edit.run (before list)
      (deletesOn list ops)).length + (Edit.indexes .create (entriesOn list ops)).length := by
    intro e mem
    have named : e.index ∈ indexesOn list .create ops ++ indexesOn list .update ops := by
      cases verb : e.verb with
      | create =>
        exact List.mem_append_left _ (added.subset (Edit.mem_indexes.mpr ⟨e, mem, verb, rfl⟩))
      | update =>
        exact List.mem_append_right _ (changed.subset (Edit.mem_indexes.mpr ⟨e, mem, verb, rfl⟩))
      | delete => exact absurd verb (verb_of_mem_entriesOn mem)
    have bound := placed.inside _ named
    rw [added.length_eq]
    omega
  obtain ⟨soundEntries, filled, entered⟩ := Edit.run_ascending
    (fun e mem => verb_of_mem_entriesOn mem)
    (entriesOn_ascending placed.creates placed.updates placed.apart) inside
  have final : before.carryOutAll id order list =
      Edit.run (Edit.run (before list) (deletesOn list ops)) (entriesOn list ops) := by
    rw [Contents.carryOutAll_apply id list before order prepared', sorted, Edit.run_append]
  refine ⟨?_, ?_, ?_⟩
  · intro done op rest split on
    have on' := Operation.worksOn_iff.mpr on
    refine ⟨_, Operation.index?_of_worksOn on', Contents.inRange_of_sound prepared' ?_ split on'⟩
    rw [sorted, Edit.sound_append]
    exact ⟨soundDeletes, soundEntries⟩
  · intro op mem on other
    have on' := Operation.worksOn_iff.mpr on
    obtain ⟨mutation, passed⟩ := prepared op mem
    obtain ⟨_, _, _, bodied, _⟩ := Operation.prepare_ok passed
    obtain ⟨fields, full⟩ := Operation.body_ok bodied other
    have listed : op ∈ (Schedule.ofList ops).merged :=
      (Schedule.merged_perm ops).symm.subset (List.mem_filter.mpr ⟨mem, by simpa using other⟩)
    have edited : op.edit ∈ entriesOn list ops :=
      List.mem_map_of_mem (List.mem_filter.mpr ⟨listed, on'⟩)
    refine ⟨_, _, Operation.index?_of_worksOn on', bodied.trans (congrArg _ full), ?_⟩
    rw [final, entered _ edited]
    simp [Operation.edit, bodied, full, Except.toOption]
  · rw [final]
    refine (thinned.fill filled (gone.nodup_iff.mpr placed.deletes)
      (added.nodup_iff.mpr placed.creates) ?_ ?_).perm gone added changed
    · exact fun i mem => placed.present i (gone.subset mem)
    · intro i mem
      have bound := placed.inside i (List.mem_append_left _ (added.subset mem))
      rw [filled.length, added.length_eq]
      omega

def Steps.flattened (concurrent : Bool) (ops : List Operation) : List Operation :=
  (Steps.plan concurrent (Job.number ops)).flatten.map (·.operation)

theorem Steps.flattened_perm (concurrent : Bool) (ops : List Operation) :
    (flattened concurrent ops).Perm ops := by
  have steps := (flatten_plan_perm concurrent (Job.number ops)).map (·.operation)
  rwa [Job.map_operation_number] at steps

theorem Steps.filter_flattened (concurrent : Bool) (list : PositionalList) (ops : List Operation)
    (indexed : ∀ op ∈ ops, op.worksOn list = true → op.kind.shape = .indexedChild) :
    (flattened concurrent ops).filter (·.worksOn list) = ops.filter (·.worksOn list) := by
  have kept := filter_flatten_plan concurrent (Job.number ops) (·.operation.worksOn list)
    fun job mem => indexed job.operation (Job.mem_of_number mem)
  have operations := Job.map_operation_number ops
  rw [flattened, List.filter_map]
  conv => rhs; rw [← operations, List.filter_map]
  exact congrArg _ kept

-- Whatever else a batch holds and in whatever order it comes, its operations on a list land where
-- they say, in the order of the schedule and in the order of its steps.
theorem scheduled_operations_land (id : TransactionId) (list : PositionalList)
    (ops : List Operation) (before : Contents)
    (prepared : ∀ op ∈ ops, ∃ mutation, op.prepare true = .ok mutation)
    (placed : Placed list ops (before list).length) :
    Lands id list ops (Schedule.ofList ops).ordered before ∧
      Lands id list ops (Steps.flattened true (Schedule.ofList ops).ordered) before := by
  have same := Schedule.ordered_perm ops
  have sorted : ((Schedule.ofList ops).ordered.filter (·.worksOn list)).map Operation.edit =
      deletesOn list ops ++ entriesOn list ops := by
    rw [Schedule.filter_ordered, List.map_append]
    rfl
  have indexed : ∀ op ∈ (Schedule.ofList ops).ordered, op.worksOn list = true →
      op.kind.shape = .indexedChild := fun op mem on => by
    obtain ⟨mutation, passed⟩ := prepared op (same.subset mem)
    exact Operation.indexed_of_prepare passed on
  refine ⟨lands_of_filter prepared placed same sorted,
    lands_of_filter prepared placed ((Steps.flattened_perm true _).trans same) ?_⟩
  rw [Steps.filter_flattened true list _ indexed, sorted]

-- Replaces the ends of a list of three and changes its middle; a shorter list loses entries, too.
def mixedBatch : List Operation :=
  let web : Parent := ⟨.frontend, "web"⟩
  let entry (name : String) : Option Payload := some ⟨name, .ok [("acl_name", .string name)]⟩
  [⟨.create, .acl, .indexed web 2, entry "last"⟩, ⟨.delete, .acl, .indexed web 0, none⟩,
    ⟨.delete, .acl, .indexed ⟨.backend, "api"⟩ 7, none⟩,
    ⟨.update, .acl, .indexed web 1, entry "new"⟩,
    ⟨.create, .acl, .indexed web 0, entry "first"⟩, ⟨.delete, .acl, .indexed web 2, none⟩,
    ⟨.create, .frontend, .named "web", entry "web"⟩]

theorem mixedBatch_operations_land :
    let list : PositionalList := ⟨.acl, ⟨.frontend, "web"⟩⟩
    let before : Contents := fun _ => [.string "a", .string "b", .string "c"]
    (∀ op ∈ mixedBatch, ∃ mutation, op.prepare true = .ok mutation) ∧
      Placed list mixedBatch (before list).length ∧
      Lands ⟨"t", by decide⟩ list mixedBatch (Schedule.ofList mixedBatch).ordered before ∧
      Lands ⟨"t", by decide⟩ list mixedBatch
        (Steps.flattened true (Schedule.ofList mixedBatch).ordered) before := by
  intro list before
  have prepared : ∀ op ∈ mixedBatch, ∃ mutation, op.prepare true = .ok mutation := by
    simp only [mixedBatch, List.forall_mem_cons, List.not_mem_nil, false_implies, implies_true]
    exact ⟨⟨_, rfl⟩, ⟨_, rfl⟩, ⟨_, rfl⟩, ⟨_, rfl⟩, ⟨_, rfl⟩, ⟨_, rfl⟩, ⟨_, rfl⟩, trivial⟩
  have placed : Placed list mixedBatch (before list).length :=
    ⟨by decide, by decide, by decide, by decide, by decide, by decide⟩
  exact ⟨prepared, placed, scheduled_operations_land _ list mixedBatch before prepared placed⟩

end Reconcile
