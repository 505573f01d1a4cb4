import Mathlib
import Reconcile.Proofs.Plan.Entry
import Reconcile.Proofs.Submission.Legality

namespace Reconcile

open Requirement

-- A body goes by its text under the first of the label keys that has one, unless that is blank.
structure Payload.Raw.GoesBy (raw : Raw) (text : String) : Prop where
  first : ∃ before key after, labelKeys = before ++ key :: after ∧
    raw.fields.get? key = some (.string text) ∧
    ∀ earlier ∈ before, ∀ other, raw.fields.get? earlier ≠ some (.string other)
  full : Text.isBlank text = false

theorem Payload.Raw.label_iff {raw : Raw} {text : String} :
    raw.label = some text ↔ raw.GoesBy text := by
  have reads (key text : String) : (raw.fields.get? key).bind (·.asString?) = some text ↔
      raw.fields.get? key = some (.string text) := by
    cases raw.fields.get? key with
    | none => simp
    | some value => cases value <;> simp [Json.asString?]
  have silent (key : String) : (raw.fields.get? key).bind (·.asString?) = none ↔
      ∀ other, raw.fields.get? key ≠ some (.string other) := by
    rw [Option.eq_none_iff_forall_ne_some]
    exact forall_congr' fun other => not_congr (reads key other)
  rw [label, Option.filter_eq_some_iff, List.findSome?_eq_some_iff]
  simp only [reads, silent, Bool.not_eq_true']
  exact ⟨fun ⟨first, full⟩ => ⟨first, full⟩, fun goes => ⟨goes.first, goes.full⟩⟩

-- What addresses are made of.
inductive Part where
  | name
  | parent
  | index
  | container
deriving DecidableEq, Repr

def Part.text : Part → String
  | .name => "name"
  | .parent => "parent"
  | .index => "index"
  | .container => "container"

-- The parts of an address of a shape, in the order in which they are asked for.
def Shape.parts : Shape → List Part
  | .singleton => []
  | .topLevel => [.name]
  | .namedChild => [.parent, .name]
  | .indexedChild => [.parent, .index]
  | .scopedChild => [.container, .name]

namespace PlanEntry

-- The name that an entry gives: the one that it states. Where it states none, and is to be sent
-- with a payload, the payload may say it.
inductive Called (e : PlanEntry) (name : String) : Prop where
  | stated (own : e.name = some name)
  | labelled (unnamed : e.name = none) (kept : e.verb ≠ .delete) (sent : e.payload = some fields)
      (label : Payload.Raw.GoesBy ⟨fields⟩ name)

def Gives (e : PlanEntry) : Part → Prop
  | .name => ∃ name, e.Called name
  | .parent => ∃ parent, e.parent = some parent
  | .index => ∃ index, e.index = some index
  | .container => ∃ container, e.container = some container

-- An entry that has all that the shape of its section needs.
def Complete (e : PlanEntry) : Prop := ∀ part ∈ e.kind.shape.parts, e.Gives part

-- The first of the parts needed that an entry does not give.
def Misses (e : PlanEntry) (part : Part) : Prop := ∃ before after,
  e.kind.shape.parts = before ++ part :: after ∧ (∀ given ∈ before, e.Gives given) ∧ ¬e.Gives part

-- An address made of what an entry gives.
def Places (e : PlanEntry) : Address → Prop
  | .singleton => True
  | .named name => e.Called name
  | .child parent name => e.parent = some parent ∧ e.Called name
  | .indexed parent index => e.parent = some parent ∧ e.index = some index
  | .contained container name => e.container = some container ∧ e.Called name

-- The operation that an entry asks for.
structure States (e : PlanEntry) (op : Operation) : Prop where
  verb : op.verb = e.verb
  kind : op.kind = e.kind
  shape : op.address.shape = e.kind.shape
  address : e.Places op.address
  payload : op.payload =
    if e.verb = .delete then none else e.payload.map fun fields => Payload.Raw.payload ⟨fields⟩

variable {e : PlanEntry} {op : Operation} {address : Address} {name : String} {position : Nat}

theorem body_eq (e : PlanEntry) :
    e.body = if e.verb = .delete then none else e.payload.map (⟨·⟩) := by
  unfold body
  cases e.verb <;> rfl

theorem called_iff : e.resourceName = some name ↔ e.Called name := by
  rw [resourceName, body_eq]
  constructor
  · intro given
    cases own : e.name with
    | some stated =>
      rw [own, Option.some_or] at given
      exact .stated (own.trans given)
    | none =>
      rw [own, Option.none_or, Option.bind_eq_some_iff] at given
      obtain ⟨raw, sent, label⟩ := given
      split at sent
      · cases sent
      · obtain ⟨fields, payload, rfl⟩ := Option.map_eq_some_iff.mp sent
        exact .labelled own ‹_› payload (Payload.Raw.label_iff.mp label)
  · intro called
    cases called with
    | stated own => rw [own, Option.some_or]
    | labelled unnamed kept sent label =>
      rw [unnamed, Option.none_or, if_neg kept, sent]
      exact Payload.Raw.label_iff.mpr label

theorem addressed_iff : e.Addressed address ↔ address.shape = e.kind.shape ∧ e.Places address := by
  constructor
  · intro addressed
    cases addressed with
    | singleton shape => exact ⟨shape.symm, trivial⟩
    | named shape name => exact ⟨shape.symm, called_iff.mp name⟩
    | child shape above name => exact ⟨shape.symm, above, called_iff.mp name⟩
    | indexed shape above place => exact ⟨shape.symm, above, place⟩
    | contained shape inside name => exact ⟨shape.symm, inside, called_iff.mp name⟩
  · rintro ⟨shape, places⟩
    cases address with
    | singleton => exact .singleton shape.symm
    | named name => exact .named shape.symm (called_iff.mpr places)
    | child parent name => exact .child shape.symm places.1 (called_iff.mpr places.2)
    | indexed parent index => exact .indexed shape.symm places.1 places.2
    | contained container name => exact .contained shape.symm places.1 (called_iff.mpr places.2)

theorem makes_iff : e.Makes op ↔ e.States op := by
  have payload : e.body.map (·.payload) = if e.verb = .delete then none else
      e.payload.map fun fields => Payload.Raw.payload ⟨fields⟩ := by
    rw [body_eq]
    split
    · rfl
    · exact Option.map_map ..
  constructor
  · intro makes
    obtain ⟨shape, places⟩ := addressed_iff.mp makes.address
    exact ⟨makes.verb, makes.kind, shape, places, makes.payload.trans payload⟩
  · intro states
    exact ⟨states.verb, states.kind, addressed_iff.mpr ⟨states.shape, states.address⟩,
      states.payload.trans payload.symm⟩

def given (e : PlanEntry) : Part → Bool
  | .name => e.resourceName.isSome
  | .parent => e.parent.isSome
  | .index => e.index.isSome
  | .container => e.container.isSome

theorem given_iff {part : Part} : e.given part = true ↔ e.Gives part := by
  cases part with
  | name => simp only [given, Gives, Option.isSome_iff_exists, called_iff]
  | _ => exact Option.isSome_iff_exists

-- What an entry has to state, at its position in the plan.
def needs (e : PlanEntry) (position : Nat) : List (Requirement PlanError) :=
  e.kind.shape.parts.map fun part => ⟨e.given part, .missingField position e.kind part.text⟩

theorem failure?_address (e : PlanEntry) (position : Nat) :
    failure? (e.address position) = objection? (e.needs position) := by
  unfold PlanEntry.address needs
  cases e.kind.shape with
  | singleton => rfl
  | topLevel =>
    simp only [Shape.parts, List.map_cons, List.map_nil, given]
    cases e.resourceName <;> rfl
  | namedChild =>
    simp only [Shape.parts, List.map_cons, List.map_nil, given]
    cases e.parent <;> cases e.resourceName <;> rfl
  | indexedChild =>
    simp only [Shape.parts, List.map_cons, List.map_nil, given]
    cases e.parent <;> cases e.index <;> rfl
  | scopedChild =>
    simp only [Shape.parts, List.map_cons, List.map_nil, given]
    cases e.container <;> cases e.resourceName <;> rfl

theorem failure?_operation (e : PlanEntry) (position : Nat) :
    failure? (e.operation position) = objection? (e.needs position) := by
  rw [← failure?_address, operation]
  cases e.address position <;> rfl

theorem complete_iff : e.Complete ↔ ∃ op, e.operation position = .ok op := by
  rw [← failure?_eq_none, failure?_operation, objection?_eq_none, needs, List.forall_mem_map]
  exact forall₂_congr fun part _ => given_iff.symm

theorem misses_iff {error : PlanError} : e.operation position = .error error ↔
    ∃ part, e.Misses part ∧ error = .missingField position e.kind part.text := by
  rw [← failure?_eq_some, failure?_operation, objection?_eq_some, needs]
  constructor
  · rintro ⟨before, after, same, all⟩
    obtain ⟨front, back, split, rfl, rest⟩ := List.map_eq_append_iff.mp same
    obtain ⟨part, later, rfl, unmet, rfl⟩ := List.map_eq_cons_iff.mp rest
    obtain ⟨absent, rfl⟩ := Requirement.mk.inj unmet
    refine ⟨part, ⟨front, later, split, fun other mem => ?_, ?_⟩, rfl⟩
    · exact given_iff.mp (all _ (List.mem_map_of_mem mem))
    · rw [← given_iff, absent]
      exact Bool.false_ne_true
  · rintro ⟨part, ⟨before, after, split, all, lacking⟩, rfl⟩
    have absent : e.given part = false := Bool.eq_false_iff.mpr (mt given_iff.mp lacking)
    rw [split, List.map_append, List.map_cons, absent]
    refine ⟨_, _, rfl, fun r mem => ?_⟩
    obtain ⟨other, earlier, rfl⟩ := List.mem_map.mp mem
    exact given_iff.mpr (all other earlier)

end PlanEntry

namespace Plan

variable {entries : List PlanEntry} {position : Nat}

theorem operations_error_cons {e : PlanEntry} {error : PlanError} :
    operations position (e :: entries) = .error error ↔ e.operation position = .error error ∨
      e.Complete ∧ operations (position + 1) entries = .error error := by
  rw [operations, @PlanEntry.complete_iff e position]
  cases e.operation position with
  | error first => simp
  | ok op => cases operations (position + 1) entries <;> simp

-- The complaint is about the first entry that is not complete, and the first part that it misses.
theorem operations_error_iff {error : PlanError} : operations position entries = .error error ↔
    ∃ before e after part, entries = before ++ e :: after ∧
      (∀ earlier ∈ before, earlier.Complete) ∧ e.Misses part ∧
      error = .missingField (position + before.length) e.kind part.text := by
  induction entries generalizing position with
  | nil => simp [operations]
  | cons e rest ih =>
    rw [operations_error_cons, PlanEntry.misses_iff, ih]
    constructor
    · rintro (⟨part, misses, rfl⟩ | ⟨complete, before, other, after, part, rfl, all, misses, rfl⟩)
      · exact ⟨[], e, rest, part, rfl, fun _ absent => (List.not_mem_nil absent).elim, misses, rfl⟩
      · refine ⟨e :: before, other, after, part, rfl, ?_, misses, ?_⟩
        · exact List.forall_mem_cons.mpr ⟨complete, all⟩
        · rw [List.length_cons, Nat.add_right_comm, Nat.add_assoc]
    · rintro ⟨before, other, after, part, split, all, misses, rfl⟩
      cases before with
      | nil =>
        obtain ⟨rfl, rfl⟩ := List.cons.inj split
        exact .inl ⟨part, misses, rfl⟩
      | cons earlier before =>
        obtain ⟨rfl, rfl⟩ := List.cons.inj split
        obtain ⟨complete, all⟩ := List.forall_mem_cons.mp all
        refine .inr ⟨complete, before, other, after, part, rfl, all, misses, ?_⟩
        rw [List.length_cons, Nat.add_right_comm, Nat.add_assoc]

theorem operations_ok_iff :
    (∃ ops, operations position entries = .ok ops) ↔ ∀ e ∈ entries, e.Complete := by
  induction entries generalizing position with
  | nil => simp [operations]
  | cons e rest ih =>
    rw [List.forall_mem_cons, ← @ih (position + 1), @PlanEntry.complete_iff e position, operations]
    cases e.operation position with
    | error first => simp
    | ok op => cases operations (position + 1) rest <;> simp

-- A plan brings the operations that its entries ask for, all of them or none.
theorem parse_exact (text : String) (entries : List PlanEntry)
    (read : entries? text = some entries) :
    ((∃ ops, parse text = .ok ops) ↔ ∀ e ∈ entries, e.Complete) ∧
      (∀ ops, parse text = .ok ops ↔ List.Forall₂ PlanEntry.States entries ops) ∧
      ∀ error, parse text = .error error ↔ ∃ before e after part,
        entries = before ++ e :: after ∧ (∀ earlier ∈ before, earlier.Complete) ∧
        e.Misses part ∧ error = .missingField before.length e.kind part.text := by
  have made : parse text = operations 0 entries := by rw [parse, read]
  rw [made]
  refine ⟨?_, fun ops => ?_, fun error => ?_⟩
  · exact operations_ok_iff
  · have same : PlanEntry.Makes = PlanEntry.States :=
      funext₂ fun e op => propext PlanEntry.makes_iff
    rw [operations_iff, same]
  · rw [operations_error_iff]
    simp only [Nat.zero_add]

def unplacedAcl : String :=
  "[\x7b\"op\":\"create\",\"section\":\"backend\",\"payload\":\x7b\"name\":\"app\"\x7d\x7d," ++
    "\x7b\"op\":\"delete\",\"section\":\"acl\"," ++
    "\"parent\":\x7b\"kind\":\"frontend\",\"name\":\"web\"\x7d\x7d]"

def labelledBackend : PlanEntry :=
  { verb := .create, kind := .backend, payload := some [("name", .string "app")] }

def unplaced : PlanEntry :=
  { verb := .delete, kind := .acl, parent := some ⟨.frontend, "web"⟩ }

-- The first entry is named by its payload, the second has no index.
theorem unplacedAcl_refused : entries? unplacedAcl = some [labelledBackend, unplaced] ∧
    parse unplacedAcl = .error (.missingField 1 .acl "index") := by
  have read : entries? unplacedAcl = some [labelledBackend, unplaced] := by cbv
  have complete : labelledBackend.Complete := by
    intro part needed
    obtain rfl := List.mem_singleton.mp needed
    exact ⟨"app", .labelled rfl (by decide) rfl (Payload.Raw.label_iff.mp rfl)⟩
  have lacking : unplaced.Misses .index := by
    refine ⟨[.parent], [], rfl, ?_, ?_⟩
    · intro part earlier
      obtain rfl := List.mem_singleton.mp earlier
      exact ⟨_, rfl⟩
    · rintro ⟨_, given⟩
      cases given
  refine ⟨read, ((parse_exact unplacedAcl _ read).2.2 _).mpr ?_⟩
  refine ⟨[labelledBackend], unplaced, [], .index, rfl, ?_, lacking, rfl⟩
  intro e earlier
  exact List.mem_singleton.mp earlier ▸ complete

end Plan
end Reconcile
