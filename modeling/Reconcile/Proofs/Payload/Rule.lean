import Reconcile.Payload.Models
import Reconcile.Proofs.Json.Object

namespace Reconcile.Payload.Rule

open Json (Object)

variable {rule : Rule} {fields : Object}

-- What a rule writes before its parameters.
def own (rule : Rule) : List (String × Json) :=
  [("type", .string rule.type)] ++ field "cond" (rule.condition.map fun c => .string c.text) ++
    field "cond_test" (rule.test.map .string)

def ownKeys : List String := ["type", "cond", "cond_test"]

theorem nodup_own (rule : Rule) : (rule.own.map (·.1)).Nodup := by
  obtain ⟨type, condition, test, params⟩ := rule
  cases condition <;> cases test <;> simp [own, field]

-- A condition comes with a test and a test with a condition, or there is no wire form.
theorem wire_ok (accepted : rule.wire = .ok fields) :
    rule.condition.isSome = rule.test.isSome ∧ fields = .ofList (rule.own ++ rule.params) := by
  obtain ⟨type, condition, test, params⟩ := rule
  unfold wire require at accepted
  cases blank : Text.isBlank type with
  | true =>
    simp only [blank, if_true] at accepted
    cases accepted
  | false =>
    simp only [blank, Bool.false_eq_true, if_false] at accepted
    cases condition <;> cases test <;> cases accepted <;> exact ⟨rfl, rfl⟩

-- A field of its own is as the rule has it, as long as no parameter takes its place.
theorem mem_wire (accepted : rule.wire = .ok fields) (free : key ∉ rule.params.keys)
    (value : Json) : (key, value) ∈ fields ↔ (key, value) ∈ rule.own := by
  rw [(wire_ok accepted).2, Object.mem_ofList_append free]
  refine ⟨Object.mem_of_mem_ofList, fun mem => ?_⟩
  rw [← List.nil_append rule.own]
  exact Object.mem_ofList_of_nodup (nodup_own rule) mem

theorem type_mem_own (value : Json) : ("type", value) ∈ rule.own ↔ value = .string rule.type := by
  obtain ⟨type, condition, test, params⟩ := rule
  cases condition <;> cases test <;> simp [own, field]

theorem cond_mem_own (value : Json) :
    ("cond", value) ∈ rule.own ↔ ∃ c ∈ rule.condition, value = .string c.text := by
  obtain ⟨type, condition, test, params⟩ := rule
  cases condition <;> cases test <;> simp [own, field]

theorem test_mem_own (value : Json) :
    ("cond_test", value) ∈ rule.own ↔ ∃ text ∈ rule.test, value = .string text := by
  obtain ⟨type, condition, test, params⟩ := rule
  cases condition <;> cases test <;> simp [own, field]

theorem key_of_mem_own {entry : String × Json} (mem : entry ∈ rule.own) : entry.1 ∈ ownKeys := by
  obtain ⟨type, condition, test, params⟩ := rule
  simp only [own, field, List.mem_append, List.mem_singleton] at mem
  rcases mem with (rfl | mem) | mem
  · simp [ownKeys]
  · cases condition with
    | none => cases mem
    | some c => simp [List.mem_singleton.mp mem, ownKeys]
  · cases test with
    | none => cases mem
    | some text => simp [List.mem_singleton.mp mem, ownKeys]

theorem cond_mem_keys (accepted : rule.wire = .ok fields) (free : "cond" ∉ rule.params.keys) :
    "cond" ∈ fields.keys ↔ rule.condition.isSome = true := by
  simp only [Object.mem_keys, mem_wire accepted free, cond_mem_own]
  cases rule.condition <;> simp

theorem test_mem_keys (accepted : rule.wire = .ok fields) (free : "cond_test" ∉ rule.params.keys) :
    "cond_test" ∈ fields.keys ↔ rule.test.isSome = true := by
  simp only [Object.mem_keys, mem_wire accepted free, test_mem_own]
  cases rule.test <;> simp

-- The fields of a rule's own reach the wire, each condition with its test, as long as no parameter
-- has the key of one of them. All other parameters are sent as they are, and nothing besides.
theorem own_fields_reach_wire (rule : Rule) (fields : Object) (accepted : rule.wire = .ok fields) :
    fields.Ordered ∧ rule.payload.label = some rule.type ∧
      ("type" ∉ rule.params.keys →
        ∀ value, ("type", value) ∈ fields ↔ value = .string rule.type) ∧
      ("cond" ∉ rule.params.keys →
        ∀ value, ("cond", value) ∈ fields ↔ ∃ c ∈ rule.condition, value = .string c.text) ∧
      ("cond_test" ∉ rule.params.keys →
        ∀ value, ("cond_test", value) ∈ fields ↔ ∃ text ∈ rule.test, value = .string text) ∧
      ("cond" ∉ rule.params.keys → "cond_test" ∉ rule.params.keys →
        ("cond" ∈ fields.keys ↔ "cond_test" ∈ fields.keys)) ∧
      (∀ entry ∈ fields, entry.1 ∉ ownKeys → entry ∈ rule.params) ∧
      (rule.params.keys.Nodup → ∀ entry ∈ rule.params, entry.1 ∉ ownKeys → entry ∈ fields) := by
  obtain ⟨together, made⟩ := wire_ok accepted
  refine ⟨made ▸ Object.ofList_ordered _, rfl, fun free value => ?_, fun free value => ?_,
    fun free value => ?_, fun noCond noTest => ?_, fun entry mem other => ?_,
    fun once entry mem _ => ?_⟩
  · rw [mem_wire accepted free, type_mem_own]
  · rw [mem_wire accepted free, cond_mem_own]
  · rw [mem_wire accepted free, test_mem_own]
  · rw [cond_mem_keys accepted noCond, test_mem_keys accepted noTest, together]
  · rw [made] at mem
    rcases List.mem_append.mp (Object.mem_of_mem_ofList mem) with own | given
    · exact absurd (key_of_mem_own own) other
    · exact given
  · rw [made]
    exact Object.mem_ofList_of_nodup once mem

def redirection : Rule :=
  { type := "redirect", condition := some .unless, test := some "{ ssl_fc }",
    params := [("redir_type", .string "scheme"), ("redir_value", .string "https")] }

def redirectionFields : Object :=
  [("cond", .string "unless"), ("cond_test", .string "{ ssl_fc }"),
    ("redir_type", .string "scheme"), ("redir_value", .string "https"),
    ("type", .string "redirect")]

theorem redirection_reaches_wire :
    redirection.wire = .ok redirectionFields ∧ redirection.payload.label = some "redirect" ∧
      (∀ value, ("type", value) ∈ redirectionFields ↔ value = .string "redirect") ∧
      ("cond" ∈ redirectionFields.keys ↔ "cond_test" ∈ redirectionFields.keys) ∧
      ∀ entry ∈ redirection.params, entry.1 ∉ ownKeys → entry ∈ redirectionFields := by
  have accepted : redirection.wire = .ok redirectionFields := by decide +kernel
  obtain ⟨-, label, type, -, -, together, -, others⟩ :=
    own_fields_reach_wire redirection redirectionFields accepted
  refine ⟨accepted, label, type ?_, together ?_ ?_, others ?_⟩ <;>
    simp [redirection, Object.keys]

-- A rule whose parameters take the places of its type and of its condition.
def disguised : Rule :=
  { type := "deny", params := [("cond", .string "if"), ("type", .string "allow")] }

def disguisedFields : Object := [("cond", .string "if"), ("type", .string "allow")]

theorem disguised_reaches_wire :
    disguised.wire = .ok disguisedFields ∧ disguised.payload.label = some "deny" ∧
      ("type", .string "deny") ∉ disguisedFields ∧ ("type", .string "allow") ∈ disguisedFields ∧
      disguised.condition = none ∧ "cond" ∈ disguisedFields.keys ∧
      "cond_test" ∉ disguisedFields.keys := by
  refine ⟨by decide +kernel, rfl, ?_⟩
  simp [disguised, disguisedFields, Object.keys]

end Reconcile.Payload.Rule
