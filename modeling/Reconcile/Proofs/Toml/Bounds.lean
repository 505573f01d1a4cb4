import Reconcile.Settings.Decode

namespace Reconcile

namespace Toml

-- Every integer in a value is a signed word of 64 bits.
inductive Node.Bounded : Node → Prop where
  | text : Bounded (.text value)
  | integer (fits : inRange n = true) : Bounded (.integer n)
  | float : Bounded .float
  | truth : Bounded (.truth value)
  | date : Bounded .date
  | list (within : ∀ item ∈ items, Bounded item) : Bounded (.list items)
  | table (within : ∀ field ∈ fields, Bounded field.2) : Bounded (.table form fields)
  | tables (within : ∀ item ∈ items, Bounded item) : Bounded (.tables items)

def Fields.Bounded (fields : Fields) : Prop := ∀ field ∈ fields, field.2.Bounded

theorem Node.Bounded.of_fields {form : Form} {fields : Fields} (bounded : fields.Bounded) :
    Bounded (.table form fields) := .table bounded

theorem Node.Bounded.fields {form : Form} {fields : Fields} (bounded : Bounded (.table form fields)) :
    fields.Bounded := by
  cases bounded with
  | table within => exact within

theorem Node.Bounded.items {items : List Node} (bounded : Bounded (.tables items)) :
    ∀ item ∈ items, item.Bounded := by
  cases bounded with
  | tables within => exact within

namespace Fields.Bounded

variable {fields : Fields} {key : String} {node : Node}

theorem nil : Fields.Bounded [] := nofun

theorem get? (bounded : fields.Bounded) (found : fields.get? key = some node) : node.Bounded := by
  obtain ⟨field, member, rfl⟩ := Option.map_eq_some_iff.mp found
  exact bounded field (List.mem_of_find?_eq_some member)

theorem set (bounded : fields.Bounded) (value : node.Bounded) : (fields.set key node).Bounded := by
  induction fields with
  | nil =>
    intro field member
    rw [List.mem_singleton.mp member]
    exact value
  | cons first rest ih =>
    obtain ⟨own, others⟩ := List.forall_mem_cons.mp bounded
    unfold Fields.set
    split
    · exact List.forall_mem_cons.mpr ⟨value, others⟩
    · exact List.forall_mem_cons.mpr ⟨own, ih others⟩

theorem concat (bounded : fields.Bounded) (value : node.Bounded) :
    Fields.Bounded (fields ++ [(key, node)]) := by
  intro field member
  rcases List.mem_append.mp member with earlier | last
  · exact bounded field earlier
  · rw [List.mem_singleton.mp last]
    exact value

end Fields.Bounded

namespace Node

-- A change that brings no other integers into a value.
def Keeps (change : Node → Option Node) : Prop :=
  ∀ node changed, node.Bounded → change node = some changed → changed.Bounded

-- What is changed at the end of a path is all that is changed.
theorem within_keeps {change : Node → Option Node} (keeps : Keeps change) (dotted : Bool)
    (path : List String) : Keeps (within dotted path change) := by
  induction path with
  | nil => exact keeps
  | cons key rest ih =>
    intro node changed bounded made
    cases node with
    | table form fields =>
      have fields' := bounded.fields
      unfold within at made
      split at made
      · obtain ⟨child, grown, rfl⟩ := Option.map_eq_some_iff.mp made
        exact .of_fields (fields'.set (ih _ child (.of_fields .nil) grown))
      · rename_i last before found
        obtain ⟨first, others⟩ := List.forall_mem_cons.mp (fields'.get? found).items
        obtain ⟨child, grown, rfl⟩ := Option.map_eq_some_iff.mp made
        have items := List.forall_mem_cons.mpr ⟨ih last child first grown, others⟩
        exact .of_fields (fields'.set (.tables items))
      · rename_i childForm inner found
        split at made
        · cases made
        · obtain ⟨child, grown, rfl⟩ := Option.map_eq_some_iff.mp made
          exact .of_fields (fields'.set (ih _ child (fields'.get? found) grown))
      · cases made
    | _ => cases made

theorem add_keeps {value : Node} (bounded : value.Bounded) (viaPath : Bool) (key : String) :
    Keeps (add viaPath key value) := by
  intro node changed inner made
  unfold add at made
  split at made
  · split at made
    · cases made
    · split at made
      · cases made
      · cases made
        exact .of_fields (inner.fields.concat bounded)
  · cases made

theorem assign_keeps {value : Node} (bounded : value.Bounded) (path : List String) :
    Keeps (·.assign path value) := by
  intro node changed inner made
  unfold assign at made
  split at made
  · cases made
  · exact within_keeps (add_keeps bounded _ _) true _ node changed inner made

theorem openTable_keeps (path : List String) : Keeps (openTable path) := by
  intro node changed inner made
  unfold openTable at made
  split at made
  · cases made
  · refine within_keeps ?_ false _ node changed inner made
    intro node changed inner made
    dsimp only at made
    split at made
    · split at made
      · cases made
        exact .of_fields (inner.fields.set (.of_fields .nil))
      · rename_i found
        cases made
        exact .of_fields (inner.fields.set (.of_fields (inner.fields.get? found).fields))
      · cases made
    · cases made

theorem openItem_keeps (path : List String) : Keeps (openItem path) := by
  have fresh : Bounded (.table .header []) := .of_fields .nil
  intro node changed inner made
  unfold openItem at made
  split at made
  · cases made
  · refine within_keeps ?_ false _ node changed inner made
    intro node changed inner made
    dsimp only at made
    split at made
    · split at made
      · cases made
        exact .of_fields (inner.fields.set (.tables (List.forall_mem_singleton.mpr fresh)))
      · rename_i items found
        cases made
        have items' := List.forall_mem_cons.mpr ⟨fresh, (inner.fields.get? found).items⟩
        exact .of_fields (inner.fields.set (.tables items'))
      · cases made
    · cases made

end Node

theorem based?_inRange {base : Nat} (read : based? base cs = some (n, rest)) :
    inRange n = true := by
  unfold based? at read
  split at read
  · cases read
  · obtain ⟨m, -, made⟩ := Option.bind_eq_some_iff.mp read
    obtain ⟨fits, same⟩ := Option.ite_none_right_eq_some.mp made
    obtain ⟨rfl, -⟩ := Prod.mk.inj (Option.some.inj same)
    exact fits

theorem integer?_inRange (read : integer? cs = some (n, rest)) : inRange n = true := by
  unfold integer? at read
  split at read
  · exact based?_inRange read
  · exact based?_inRange read
  · exact based?_inRange read
  · split at read
    · cases read
    · obtain ⟨m, -, made⟩ := Option.bind_eq_some_iff.mp read
      obtain ⟨fits, same⟩ := Option.ite_none_right_eq_some.mp made
      obtain ⟨rfl, -⟩ := Prod.mk.inj (Option.some.inj same)
      exact fits

theorem numeric?_bounded (read : numeric? cs = some (node, rest)) : node.Bounded := by
  unfold numeric? at read
  split at read
  · cases read
    exact .date
  · split at read
    · cases read
      exact .float
    · obtain ⟨⟨n, after⟩, number, same⟩ := Option.map_eq_some_iff.mp read
      cases same
      exact .integer (integer?_inRange number)

theorem word?_bounded {word : List Char} (bounded : node.Bounded)
    (read : word? word node cs = some (found, rest)) : found.Bounded := by
  unfold word? at read
  split at read
  · cases read
    exact bounded
  · cases read

-- The values that readers of a certain strength bring.
structure Reads (fuel : Nat) : Prop where
  value : ∀ depth cs node rest, value? fuel depth cs = some (node, rest) → node.Bounded
  items : ∀ depth cs nodes rest, items? fuel depth cs = some (nodes, rest) →
    ∀ item ∈ nodes, item.Bounded
  pairs : ∀ depth table cs node rest, table.Bounded →
    pairs? fuel depth table cs = some (node, rest) → node.Bounded

theorem Reads.value_succ (reads : Reads fuel) (depth : Nat)
    (read : value? (fuel + 1) depth cs = some (node, rest)) : node.Bounded := by
  unfold value? at read
  split at read
  · cases read
  · split at read
    · obtain ⟨⟨nodes, after⟩, inner, same⟩ := Option.map_eq_some_iff.mp read
      cases same
      exact .list (reads.items _ _ _ _ inner)
    · cases read
  · split at read
    · split at read
      · cases read
        exact .of_fields .nil
      · exact reads.pairs _ _ _ _ _ (.of_fields .nil) read
    · cases read
  · split at read
    · obtain ⟨⟨text, after⟩, -, same⟩ := Option.map_eq_some_iff.mp read
      cases same
      exact .text
    · split at read
      · exact numeric?_bounded read
      · split at read
        · exact word?_bounded .truth read
        · split at read
          · exact word?_bounded .truth read
          · split at read
            · exact word?_bounded .float read
            · split at read
              · exact word?_bounded .float read
              · cases read

theorem Reads.items_succ (reads : Reads fuel) (depth : Nat)
    (read : items? (fuel + 1) depth cs = some (nodes, rest)) : ∀ item ∈ nodes, item.Bounded := by
  unfold items? at read
  split at read
  · cases read
    exact nofun
  · split at read
    · cases read
    · rename_i item after found
      have first := reads.value _ _ _ _ found
      split at read
      · obtain ⟨⟨more, last⟩, inner, same⟩ := Option.map_eq_some_iff.mp read
        cases same
        exact List.forall_mem_cons.mpr ⟨first, reads.items _ _ _ _ inner⟩
      · cases read
        exact List.forall_mem_singleton.mpr first
      · cases read

theorem Reads.pairs_succ (reads : Reads fuel) (depth : Nat) {table : Node}
    (bounded : table.Bounded) (read : pairs? (fuel + 1) depth table cs = some (node, rest)) :
    node.Bounded := by
  unfold pairs? at read
  split at read
  · split at read
    · cases read
    · rename_i value after found
      have keeps := Node.assign_keeps (reads.value _ _ _ _ found)
      split at read
      · exact reads.pairs _ _ _ _ _ (keeps _ _ _ bounded ‹_›) read
      · cases read
        exact keeps _ _ _ bounded ‹_›
      · cases read
  · cases read

-- One level of nesting rests on those inside it.
theorem reads (fuel : Nat) : Reads fuel := by
  induction fuel with
  | zero => exact ⟨nofun, nofun, nofun⟩
  | succ fuel ih =>
    exact ⟨fun depth _ _ _ => ih.value_succ depth, fun depth _ _ _ => ih.items_succ depth,
      fun depth _ _ _ _ => ih.pairs_succ depth⟩

theorem header?_bounded {page next : Page} (bounded : page.document.Bounded)
    (read : header? page cs = some (next, rest)) : next.document.Bounded := by
  unfold header? at read
  split at read
  · split at read
    · split at read
      · cases read
        exact Node.openItem_keeps _ _ _ bounded ‹_›
      · cases read
    · cases read
  · split at read
    · split at read
      · cases read
        exact Node.openTable_keeps _ _ _ bounded ‹_›
      · cases read
    · cases read

theorem pair?_bounded {page next : Page} (bounded : page.document.Bounded)
    (read : pair? page cs = some (next, rest)) : next.document.Bounded := by
  unfold pair? at read
  split at read
  · split at read
    · cases read
    · rename_i value after found
      split at read
      · cases read
        have keeps := Node.assign_keeps ((reads _).value _ _ _ _ found)
        exact Node.within_keeps (keeps _) false _ _ _ bounded ‹_›
      · cases read
  · cases read

theorem lines?_bounded {page : Page} (bounded : page.document.Bounded)
    (read : lines? fuel page cs = some node) : node.Bounded := by
  induction fuel generalizing page cs with
  | zero =>
    unfold lines? at read
    split at read
    · cases read
      exact bounded
    · cases read
    · rename_i impossible _
      cases impossible
  | succ fuel ih =>
    unfold lines? at read
    split at read
    · cases read
      exact bounded
    · cases read
    · rename_i same _
      cases same
      split at read
      · obtain ⟨after, -, more⟩ := Option.bind_eq_some_iff.mp read
        exact ih bounded more
      · obtain ⟨⟨next, after⟩, header, more⟩ := Option.bind_eq_some_iff.mp read
        exact ih (header?_bounded bounded header) more
      · split at read
        · obtain ⟨after, -, more⟩ := Option.bind_eq_some_iff.mp read
          exact ih bounded more
        · obtain ⟨⟨next, after⟩, pair, more⟩ := Option.bind_eq_some_iff.mp read
          exact ih (pair?_bounded bounded pair) more
      · cases read
        exact bounded

-- No document holds an integer beyond a signed word.
theorem parse?_bounded {text : String} (read : parse? text = some node) : node.Bounded :=
  lines?_bounded (.of_fields .nil) read

end Toml
end Reconcile
