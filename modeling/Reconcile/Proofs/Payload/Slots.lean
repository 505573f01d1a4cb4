import Mathlib.Data.List.Nodup
import Reconcile.Payload.Field
import Reconcile.Proofs.Json.Object

namespace Reconcile.Payload

open Json (Object)

-- The places that a model has in its object: each key, and what is written there, if anything is.
abbrev Slots := List (String × Option Json)

namespace Slots

def keys (slots : Slots) : List String := slots.map (·.1)

def written (slots : Slots) : List (String × Json) := slots.flatMap fun slot => field slot.1 slot.2

-- Which places are filled.
def filled (slots : Slots) : List (String × Bool) := slots.map fun slot => (slot.1, slot.2.isSome)

variable {slots : Slots} {key other : String} {value : Json} {content : Option Json}

theorem mem_field : (key, value) ∈ field other content ↔ key = other ∧ content = some value := by
  cases content <;> simp [field, eq_comm]

theorem mem_written : (key, value) ∈ slots.written ↔ (key, some value) ∈ slots := by
  simp [written, mem_field]

theorem written_sublist (slots : Slots) : (slots.written.map (·.1)).Sublist slots.keys := by
  induction slots with
  | nil => exact .slnil
  | cons slot rest ih =>
    obtain ⟨key, content⟩ := slot
    cases content with
    | none => exact ih.cons key
    | some value => exact ih.cons_cons key

-- An object holds what its places say, and nothing else.
theorem mem_object (once : slots.keys.Nodup) :
    (key, value) ∈ Object.ofList slots.written ↔ (key, some value) ∈ slots := by
  rw [← mem_written]
  constructor
  · exact Object.mem_of_mem_ofList
  · intro mem
    rw [← List.nil_append slots.written]
    exact Object.mem_ofList_of_nodup (once.sublist (written_sublist slots)) mem

theorem get?_object (once : slots.keys.Nodup) (mem : (key, content) ∈ slots) :
    (Object.ofList slots.written).get? key = content := by
  ext value
  rw [← Object.mem_iff_get? (Object.ofList_ordered _), mem_object once]
  constructor
  · intro found
    exact congrArg Prod.snd (List.inj_on_of_nodup_map once mem found rfl)
  · rintro rfl
    exact mem

theorem mem_keys_object (once : slots.keys.Nodup) :
    key ∈ (Object.ofList slots.written).keys ↔ (key, true) ∈ slots.filled := by
  simp only [Object.mem_keys, mem_object once, filled, List.mem_map, Prod.mk.injEq,
    Option.isSome_iff_exists]
  constructor
  · rintro ⟨value, mem⟩
    exact ⟨_, mem, rfl, value, rfl⟩
  · rintro ⟨⟨_, _⟩, mem, rfl, value, rfl⟩
    exact ⟨value, mem⟩

-- Places with the same keys, each once, that make the same object are filled alike.
theorem eq_of_object {slots' : Slots} (once : slots.keys.Nodup) (keys : slots.keys = slots'.keys)
    (same : Object.ofList slots.written = Object.ofList slots'.written) : slots = slots' := by
  refine List.ext_getElem ?_ fun i inside inside' => ?_
  · simpa [Slots.keys] using congrArg List.length keys
  · have key : slots[i].1 = slots'[i].1 := by
      have here := congrArg (·[i]?) keys
      simpa [Slots.keys, inside, inside'] using here
    have here : (Object.ofList slots.written).get? slots[i].1 = slots[i].2 :=
      get?_object once (List.getElem_mem inside)
    have there : (Object.ofList slots'.written).get? slots'[i].1 = slots'[i].2 :=
      get?_object (keys ▸ once) (List.getElem_mem inside')
    rw [same, key, there] at here
    exact Prod.ext key here.symm

end Slots

-- Values that are read back as they are written, and are never written as null.
structure Recovers (write : α → Json) (read : Json → Option α) : Prop where
  back : ∀ a, read (write a) = some a
  solid : ∀ a, write a ≠ .null

section reading

variable {write : α → Json} {read : Json → Option α} {fields : Object} {key : String}

theorem Recovers.injective (recovers : Recovers write read) (same : write a = write b) : a = b := by
  have back := recovers.back a
  rw [same, recovers.back] at back
  exact (Option.some.inj back).symm

theorem Recovers.required (recovers : Recovers write read)
    (found : fields.get? key = some (write a)) : readRequired fields key read = some a := by
  rw [readRequired, found]
  exact recovers.back a

theorem Recovers.optional (recovers : Recovers write read) {content : Option α}
    (found : fields.get? key = content.map write) :
    readOptional fields key read = some content := by
  cases content with
  | none => rw [readOptional, found]; rfl
  | some a =>
    have given : fields.get? key = some (write a) := found
    unfold readOptional
    split
    · cases given.symm.trans ‹_›
    · exact absurd (Option.some.inj (given.symm.trans ‹_›)) (recovers.solid a)
    · cases given.symm.trans ‹_›
      rw [recovers.back]
      rfl

end reading

theorem recovers_string : Recovers .string (·.asString?) := ⟨fun _ => rfl, nofun⟩

theorem recovers_bool : Recovers .bool (·.asBool?) := ⟨fun _ => rfl, nofun⟩

theorem asNat?_nat (n : Nat) : (Json.nat n).asNat? = some n := by simp [Json.nat, Json.asNat?]

theorem recovers_word32 : Recovers word32 readWord32? := by
  refine ⟨fun n => ?_, nofun⟩
  have fits : n.toNat < Word.count32 := n.toNat_lt
  rw [readWord32?, word32, asNat?_nat, Option.bind_some, if_pos fits, UInt32.ofNat_toNat]

theorem recovers_word64 : Recovers word64 readWord64? := by
  refine ⟨fun n => ?_, nofun⟩
  have fits : n.toNat < Word.count64 := n.toNat_lt
  rw [readWord64?, word64, asNat?_nat, Option.bind_some, if_pos fits, UInt64.ofNat_toNat]

theorem toggle_injective {on on' : Bool} (same : toggle on = toggle on') : on = on' := by
  cases on <;> cases on' <;> simp_all [toggle]

end Reconcile.Payload
