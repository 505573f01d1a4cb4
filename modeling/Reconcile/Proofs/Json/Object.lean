import Mathlib.Data.List.Induction
import Mathlib.Data.String.Basic
import Reconcile.Json.Value

namespace Reconcile.Json.Object

-- The keys of an object as it is kept: in increasing order, each once.
def Ordered (fields : Object) : Prop := fields.keys.Pairwise (· < ·)

theorem mem_keys {fields : Object} {key : String} :
    key ∈ fields.keys ↔ ∃ value, (key, value) ∈ fields := by
  simp [keys]

theorem mem_keys_insert {fields : Object} {key other : String} {value : Json} :
    other ∈ (fields.insert key value).keys ↔ other = key ∨ other ∈ fields.keys := by
  induction fields with
  | nil => simp [insert, keys]
  | cons field rest ih =>
    obtain ⟨k, v⟩ := field
    unfold insert
    split
    · simp [keys]
    · split
      · rename_i same
        simp [keys, same]
      · simp only [keys, List.map_cons, List.mem_cons] at ih ⊢
        rw [ih, or_left_comm]

theorem insert_ordered {fields : Object} (ordered : fields.Ordered) (key : String) (value : Json) :
    (fields.insert key value).Ordered := by
  induction fields with
  | nil => exact List.pairwise_singleton ..
  | cons field rest ih =>
    obtain ⟨k, v⟩ := field
    obtain ⟨least, tail⟩ := List.pairwise_cons.mp ordered
    unfold insert
    split
    · rename_i low
      refine List.pairwise_cons.mpr ⟨fun other mem => ?_, ordered⟩
      rcases List.mem_cons.mp mem with rfl | later
      · exact low
      · exact low.trans (least other later)
    · split
      · rename_i same
        exact same ▸ ordered
      · rename_i high apart
        refine List.pairwise_cons.mpr ⟨fun other mem => ?_, ih tail⟩
        rcases mem_keys_insert.mp mem with rfl | later
        · exact lt_of_le_of_ne (not_lt.mp high) (Ne.symm apart)
        · exact least other later

theorem ofList_concat (fields : List (String × Json)) (last : String × Json) :
    ofList (fields ++ [last]) = (ofList fields).insert last.1 last.2 := List.foldl_append

theorem ofList_ordered (fields : List (String × Json)) : (ofList fields).Ordered := by
  induction fields using List.reverseRecOn with
  | nil => exact .nil
  | append_singleton fields last ih =>
    rw [ofList_concat]
    exact insert_ordered ih ..

-- What is written last of a key is what an object has there.
theorem get?_ofList (fields : List (String × Json)) (key : String) :
    (ofList fields).get? key = fields.reverse.lookup key := by
  induction fields using List.reverseRecOn with
  | nil => rfl
  | append_singleton fields last ih =>
    obtain ⟨written, value⟩ := last
    rw [ofList_concat, get?_insert, ih, List.reverse_concat, List.lookup_cons]
    by_cases same : key = written
    · simp [same]
    · simp [beq_eq_false_iff_ne.mpr same, same]

theorem get?_cons (field : String × Json) (rest : Object) (key : String) :
    get? (field :: rest) key = if field.1 = key then some field.2 else get? rest key := by
  by_cases same : field.1 = key <;> simp [get?, same]

theorem mem_iff_get? {fields : Object} (ordered : fields.Ordered) {key : String} {value : Json} :
    (key, value) ∈ fields ↔ fields.get? key = some value := by
  induction fields with
  | nil => simp [get?]
  | cons field rest ih =>
    obtain ⟨least, tail⟩ := List.pairwise_cons.mp ordered
    rw [get?_cons, List.mem_cons, ih tail]
    split
    · rename_i same
      subst same
      have absent : get? rest field.1 ≠ some value := by
        intro found
        exact lt_irrefl _ (least _ (List.mem_map.mpr ⟨_, (ih tail).mpr found, rfl⟩))
      simp [absent, Prod.ext_iff, eq_comm]
    · rename_i other
      simp [Prod.ext_iff, Ne.symm other]

theorem mem_ofList {fields : List (String × Json)} {key : String} {value : Json} :
    (key, value) ∈ ofList fields ↔ fields.reverse.lookup key = some value := by
  rw [mem_iff_get? (ofList_ordered fields), get?_ofList]

-- Nothing gets into an object that was not written.
theorem mem_of_mem_ofList {fields : List (String × Json)} {field : String × Json}
    (kept : field ∈ ofList fields) : field ∈ fields := by
  obtain ⟨before, after, same, -⟩ := List.lookup_eq_some_iff.mp (mem_ofList.mp kept)
  rw [← List.mem_reverse, same]
  exact List.mem_append_right _ (List.mem_cons_self ..)

-- What is not written again stays.
theorem mem_ofList_append {first later : List (String × Json)} {key : String} {value : Json}
    (absent : key ∉ later.map (·.1)) :
    (key, value) ∈ ofList (first ++ later) ↔ (key, value) ∈ ofList first := by
  have none : later.reverse.lookup key = none := by
    rw [List.lookup_eq_none_iff]
    intro field mem
    rw [bne_iff_ne]
    rintro rfl
    exact absent (List.mem_map_of_mem (List.mem_reverse.mp mem))
  rw [mem_ofList, mem_ofList, List.reverse_append, List.lookup_append, none, Option.none_or]

-- What is written last, each key once, is kept.
theorem mem_ofList_of_nodup {first later : List (String × Json)}
    (once : (later.map (·.1)).Nodup) {field : String × Json} (mem : field ∈ later) :
    field ∈ ofList (first ++ later) := by
  obtain ⟨before, after, rfl⟩ := List.append_of_mem mem
  have absent : field.1 ∉ after.map (·.1) := by
    rw [List.map_append, List.map_cons, List.nodup_append] at once
    exact (List.nodup_cons.mp once.2.1).1
  have split : first ++ (before ++ field :: after) = ((first ++ before) ++ [field]) ++ after := by
    simp
  rw [split, mem_ofList_append absent, mem_ofList, List.reverse_concat]
  exact List.lookup_cons_self

end Reconcile.Json.Object
