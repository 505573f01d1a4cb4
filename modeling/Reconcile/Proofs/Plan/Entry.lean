import Mathlib.Data.List.Forall2
import Reconcile.Plan.Basic

namespace Reconcile

open Json (Written)

namespace PlanEntry

-- The address that an entry states, if it states all that the shape of its section needs.
inductive Addressed (e : PlanEntry) : Address → Prop where
  | singleton (shape : e.kind.shape = .singleton) : Addressed e .singleton
  | named (shape : e.kind.shape = .topLevel) (name : e.resourceName = some called) :
      Addressed e (.named called)
  | child (shape : e.kind.shape = .namedChild) (above : e.parent = some holder)
      (name : e.resourceName = some called) : Addressed e (.child holder called)
  | indexed (shape : e.kind.shape = .indexedChild) (above : e.parent = some holder)
      (place : e.index = some position) : Addressed e (.indexed holder position)
  | contained (shape : e.kind.shape = .scopedChild) (inside : e.container = some holder)
      (name : e.resourceName = some called) : Addressed e (.contained holder called)

-- The operation that an entry becomes, wherever it stands.
structure Makes (e : PlanEntry) (op : Operation) : Prop where
  verb : op.verb = e.verb
  kind : op.kind = e.kind
  address : e.Addressed op.address
  payload : op.payload = e.body.map (·.payload)

-- Something that the shape of its section needs is missing.
def Lacks (e : PlanEntry) : Prop := ∀ address, ¬e.Addressed address

variable {e : PlanEntry} {position : Nat} {address : Address} {op : Operation}

theorem address_iff : e.address position = .ok address ↔ e.Addressed address := by
  constructor
  · intro made
    unfold PlanEntry.address missing at made
    split at made
    · cases made
      exact .singleton ‹_›
    · split at made
      · cases made
      · cases made
        exact .named ‹_› ‹_›
    · split at made
      · cases made
      · cases made
      · cases made
        exact .child ‹_› ‹_› ‹_›
    · split at made
      · cases made
      · cases made
      · cases made
        exact .indexed ‹_› ‹_› ‹_›
    · split at made
      · cases made
      · cases made
      · cases made
        exact .contained ‹_› ‹_› ‹_›
  · intro addressed
    cases addressed <;> simp [PlanEntry.address, *]

theorem operation_iff : e.operation position = .ok op ↔ e.Makes op := by
  unfold operation
  constructor
  · intro made
    split at made
    · cases made
    · cases made
      exact ⟨rfl, rfl, address_iff.mp ‹_›, rfl⟩
  · intro makes
    obtain ⟨verb, kind, address, payload⟩ := op
    obtain ⟨rfl, rfl, addressed, rfl⟩ := makes
    rw [address_iff.mpr addressed]

end PlanEntry

namespace Plan

variable {entries : List PlanEntry} {ops : List Operation} {position : Nat} {items : List Written}

-- One entry, one operation, in the same order.
theorem operations_iff :
    operations position entries = .ok ops ↔ List.Forall₂ PlanEntry.Makes entries ops := by
  induction entries generalizing position ops with
  | nil => rw [operations, List.forall₂_nil_left_iff, Except.ok.injEq, eq_comm]
  | cons e rest ih =>
    rw [operations, List.forall₂_cons_left_iff]
    constructor
    · intro made
      split at made
      · cases made
      · split at made
        · cases made
        · cases made
          exact ⟨_, _, PlanEntry.operation_iff.mp ‹_›, ih.mp ‹_›, rfl⟩
    · rintro ⟨op, more, makes, others, rfl⟩
      rw [PlanEntry.operation_iff.mpr makes]
      dsimp only
      rw [ih.mpr others]

def Decodes (item : Written) (e : PlanEntry) : Prop := entry? item = some e

theorem mapM_iff : items.mapM entry? = some entries ↔ List.Forall₂ Decodes items entries := by
  induction items generalizing entries with
  | nil =>
    rw [List.mapM_nil, List.forall₂_nil_left_iff, eq_comm]
    exact Option.some_inj
  | cons item rest ih =>
    rw [List.forall₂_cons_left_iff]
    simp only [List.mapM_cons, Option.bind_eq_bind, Option.bind_eq_some_iff, ih]
    constructor
    · rintro ⟨e, decoded, more, others, same⟩
      cases same
      exact ⟨e, more, decoded, others, rfl⟩
    · rintro ⟨e, more, decoded, others, rfl⟩
      exact ⟨e, decoded, more, others, rfl⟩

-- What an entry of a plan has to be: decoded, and complete.
def Becomes (item : Written) (op : Operation) : Prop := ∃ e, Decodes item e ∧ e.Makes op

-- It does not decode, or a field is missing that its section needs.
def Spoiled (item : Written) : Prop := entry? item = none ∨ ∃ e, Decodes item e ∧ e.Lacks

theorem forall₂_becomes : List.Forall₂ Becomes items ops ↔ ∃ entries,
    List.Forall₂ Decodes items entries ∧ List.Forall₂ PlanEntry.Makes entries ops := by
  induction items generalizing ops with
  | nil => simp
  | cons item rest ih =>
    simp only [List.forall₂_cons_left_iff, ih]
    constructor
    · rintro ⟨op, more, ⟨e, decoded, makes⟩, ⟨entries, others, made⟩, rfl⟩
      exact ⟨e :: entries, ⟨e, entries, decoded, others, rfl⟩, .cons makes made⟩
    · rintro ⟨entries, ⟨e, entries', decoded, others, rfl⟩, made⟩
      cases made with
      | cons makes made => exact ⟨_, _, ⟨e, decoded, makes⟩, ⟨entries', others, made⟩, rfl⟩

variable {text : String}

theorem exists_of_mem {op : Operation} (made : List.Forall₂ Becomes items ops) (listed : op ∈ ops) :
    ∃ item, Becomes item op := by
  induction made with
  | nil => cases listed
  | cons becomes others ih =>
    rcases List.mem_cons.mp listed with rfl | later
    · exact ⟨_, becomes⟩
    · exact ih later

theorem entries?_iff : entries? text = some entries ↔ ∃ items,
    Written.ofText? text = some (.array items) ∧
      List.Forall₂ Decodes items entries := by
  unfold entries?
  constructor
  · intro read
    split at read
    · exact ⟨_, ‹_›, mapM_iff.mp read⟩
    · cases read
  · rintro ⟨items, written, decoded⟩
    rw [written]
    exact mapM_iff.mpr decoded

theorem parse_iff : parse text = .ok ops ↔
    ∃ items, Written.ofText? text = some (.array items) ∧ List.Forall₂ Becomes items ops := by
  have step : parse text = .ok ops ↔
      ∃ entries, entries? text = some entries ∧ operations 0 entries = .ok ops := by
    unfold parse
    cases entries? text <;> simp
  rw [step]
  simp only [entries?_iff, operations_iff, forall₂_becomes]
  constructor
  · rintro ⟨entries, ⟨items, written, decoded⟩, made⟩
    exact ⟨items, written, entries, decoded, made⟩
  · rintro ⟨items, written, entries, decoded, made⟩
    exact ⟨entries, ⟨items, written, decoded⟩, made⟩

end Plan
end Reconcile
