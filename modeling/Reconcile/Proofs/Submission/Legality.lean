import Reconcile.Proofs.Submission.Prepare

namespace Reconcile

-- What an attempt fails with, if it does.
def failure? : Except ε α → Option ε
  | .error e => some e
  | .ok _ => none

theorem failure?_eq_some {x : Except ε α} {e : ε} : failure? x = some e ↔ x = .error e := by
  cases x <;> simp [failure?]

theorem failure?_eq_none {x : Except ε α} : failure? x = none ↔ ∃ a, x = .ok a := by
  cases x <;> simp [failure?]

-- A condition, and what is said where it is not met.
structure Requirement (ε : Type) where
  met : Bool
  complaint : ε

namespace Requirement

def map (f : ε → δ) (r : Requirement ε) : Requirement δ := ⟨r.met, f r.complaint⟩

-- What is said of the first condition that is not met.
def objection? (requirements : List (Requirement ε)) : Option ε :=
  (requirements.find? (!Requirement.met ·)).map Requirement.complaint

theorem objection?_cons (r : Requirement ε) (rest : List (Requirement ε)) :
    objection? (r :: rest) = if r.met = true then objection? rest else some r.complaint := by
  cases given : r.met <;> simp [objection?, given]

theorem objection?_append (first second : List (Requirement ε)) :
    objection? (first ++ second) = (objection? first).or (objection? second) := by
  rw [objection?, List.find?_append, Option.map_or]
  rfl

theorem objection?_map (f : ε → δ) (requirements : List (Requirement ε)) :
    objection? (requirements.map (.map f)) = (objection? requirements).map f := by
  induction requirements with
  | nil => rfl
  | cons r rest ih =>
    rw [List.map_cons, objection?_cons, objection?_cons, ih]
    cases given : r.met <;> simp [map, given]

theorem objection?_eq_none {requirements : List (Requirement ε)} :
    objection? requirements = none ↔ ∀ r ∈ requirements, r.met = true := by
  simp [objection?]

theorem objection?_eq_some {requirements : List (Requirement ε)} {e : ε} :
    objection? requirements = some e ↔ ∃ before after,
      requirements = before ++ ⟨false, e⟩ :: after ∧ ∀ r ∈ before, r.met = true := by
  simp only [objection?, Option.map_eq_some_iff, List.find?_eq_some_iff_append]
  constructor
  · rintro ⟨⟨given, _⟩, ⟨unmet, before, after, same, all⟩, rfl⟩
    obtain rfl : given = false := by simpa using unmet
    exact ⟨before, after, same, fun r mem => by simpa using all r mem⟩
  · rintro ⟨before, after, same, all⟩
    exact ⟨⟨false, e⟩, ⟨rfl, before, after, same, fun r mem => by simp [all r mem]⟩, rfl⟩

-- Where it does not matter what the first attempt brings, the conditions of both are in turn.
theorem failure?_bind {x : Except ε α} {f : α → Except ε β} {first second : List (Requirement ε)}
    (now : failure? x = objection? first) (later : ∀ a, failure? (f a) = objection? second) :
    failure? (x >>= f) = objection? (first ++ second) := by
  rw [objection?_append, ← now]
  cases x with
  | error e => rfl
  | ok a => exact later a

end Requirement

open Requirement

-- The texts that identify a resource, each with the field that it stands in.
def Address.identifiers : Address → List (String × String)
  | .singleton => []
  | .named name => [("name", name)]
  | .child parent name => [("parent", parent.name), ("name", name)]
  | .indexed parent _ => [("parent", parent.name)]
  | .contained container name => [("container", container), ("name", name)]

namespace Section

-- A section lets itself be placed in some kinds of parents only.
def housing (s : Section) (parent : Parent) : Requirement Refusal :=
  ⟨parent.kind ∈ s.parents, .parentNotAllowed s parent.kind⟩

def filling (s : Section) (identifier : String × String) : Requirement Refusal :=
  ⟨!Text.isBlank identifier.2, .emptyField s identifier.1⟩

-- What an address has to meet in a section: its shape first, then the kind of its parent, then that
-- no text in it is blank.
def addressing (s : Section) (address : Address) : List (Requirement Refusal) :=
  ⟨address.shape = s.shape, .shapeMismatch s⟩ ::
    (address.parent?.toList.map s.housing ++ address.identifiers.map s.filling)

-- The fields of an address as a target has them. A container is of the first kind that the section
-- may live in.
def landing? (s : Section) : Address → Option Target
  | .singleton => some .singleton
  | .named name => some (.named name)
  | .child parent name => some (.child parent name)
  | .indexed parent index => some (.indexed parent index)
  | .contained container name => s.parents.head?.map fun kind => .contained ⟨kind, container⟩ name

theorem head?_of_scopedChild {s : Section} (shape : s.shape = .scopedChild) :
    ∃ kind, s.parents.head? = some kind := by
  have listed : ∀ s ∈ all, s.shape = .scopedChild → s.parents.head?.isSome = true := by
    decide +kernel
  exact Option.isSome_iff_exists.mp (listed s (mem_all s) shape)

theorem failure?_required (s : Section) (field text : String) :
    failure? (s.required field text) = objection? [s.filling (field, text)] := by
  simp only [required, objection?_cons, filling]
  cases Text.isBlank text <;> rfl

theorem failure?_checkedParent (s : Section) (parent : Parent) :
    failure? (s.checkedParent parent) =
      objection? [s.housing parent, s.filling ("parent", parent.name)] := by
  unfold checkedParent acceptsParent
  rw [objection?_cons]
  by_cases accepted : parent.kind ∈ s.parents
  · simp only [housing, accepted, decide_true, Bool.true_eq_false, if_false, if_true]
    exact failure?_bind (failure?_required ..) fun _ => rfl
  · simp only [housing, accepted, decide_false, Bool.false_eq_true, if_false, if_true]
    rfl

-- An address is refused for the first thing that is wrong with it.
theorem failure?_target (s : Section) (address : Address) :
    failure? (s.target address) = objection? (s.addressing address) := by
  rw [addressing, objection?_cons]
  by_cases shape : address.shape = s.shape
  · simp only [shape, decide_true, if_true]
    cases address with
    | singleton =>
      simp only [target, ← shape, Address.shape]
      rfl
    | named name =>
      simp only [target, ← shape, Address.shape]
      show failure? _ = objection? ([s.filling ("name", name)] ++ [])
      exact failure?_bind (failure?_required ..) fun _ => rfl
    | child parent name =>
      simp only [target, ← shape, Address.shape]
      show failure? _ = objection? ([s.housing parent, s.filling ("parent", parent.name)] ++
        ([s.filling ("name", name)] ++ []))
      exact failure?_bind (failure?_checkedParent ..) fun _ =>
        failure?_bind (failure?_required ..) fun _ => rfl
    | indexed parent index =>
      simp only [target, ← shape, Address.shape]
      show failure? _ =
        objection? ([s.housing parent, s.filling ("parent", parent.name)] ++ [])
      exact failure?_bind (failure?_checkedParent ..) fun _ => rfl
    | contained container name =>
      obtain ⟨kind, holder⟩ := head?_of_scopedChild shape.symm
      simp only [target, ← shape, Address.shape, holder]
      show failure? _ = objection? ([s.filling ("container", container)] ++
        ([s.filling ("name", name)] ++ []))
      exact failure?_bind (failure?_required ..) fun _ =>
        failure?_bind (failure?_required ..) fun _ => rfl
  · simp only [shape, decide_false, Bool.false_eq_true, if_false]
    unfold target
    split
    all_goals first
      | rfl
      | exact absurd (Eq.symm ‹_›) shape

end Section

theorem Landing.fields {s : Section} (landing : Landing s address target) :
    s.landing? address = some target := by
  cases landing with
  | contained shape holder inside given => simp [Section.landing?, holder]
  | _ => rfl

theorem Shape.supports_eq (shape : Shape) (verb : Verb) :
    shape.supports verb = decide (shape ≠ .singleton ∨ verb = .update) := by
  cases shape <;> cases verb <;> rfl

namespace Operation

-- What the payload of an operation has to meet. A delete needs none.
def sending (op : Operation) : List (Requirement Failure) :=
  if op.verb = .delete then []
  else
    ⟨op.payload.isSome, .validation (.missingPayload op.kind op.verb)⟩ ::
      (op.payload.bind (failure? ·.wire)).toList.map fun error => ⟨false, .transform error⟩

-- All that an operation has to meet, in the order in which it is looked at.
def requirements (op : Operation) (inTransaction : Bool) : List (Requirement Failure) :=
  ⟨op.kind.shape ≠ .singleton ∨ op.verb = .update,
      .validation (.unsupportedVerb op.kind op.verb)⟩ ::
    ((op.kind.addressing op.address).map (.map .validation) ++
      ⟨inTransaction || op.kind.runtime, .validation (.transactionRequired op.kind)⟩ :: op.sending)

theorem failure?_body (op : Operation) : failure? op.body = objection? op.sending := by
  unfold body sending
  split
  · rename_i verb
    rw [if_pos verb]
    rfl
  · rename_i verb
    rw [if_neg verb, objection?_cons]
    cases op.payload with
    | none => rfl
    | some payload =>
      cases made : payload.wire with
      | error error => simp [made, failure?, objection?]
      | ok fields => simp [made, failure?, objection?]

-- An operation is refused for the first thing that is wrong with it.
theorem failure?_prepare (op : Operation) (inTransaction : Bool) :
    failure? (op.prepare inTransaction) = objection? (op.requirements inTransaction) := by
  rw [requirements, objection?_cons, objection?_append, objection?_map, ← Section.failure?_target,
    objection?_cons, ← failure?_body, ← Shape.supports_eq]
  unfold prepare
  cases op.kind.shape.supports op.verb with
  | false => rfl
  | true =>
    cases op.kind.target op.address with
    | error refusal => rfl
    | ok target =>
      cases inTransaction <;> cases op.kind.runtime <;> cases op.body <;> rfl

-- An operation that can be carried out as far as can be told without asking anybody: a singleton is
-- updated only, the address is one of its section, and there is something to send.
structure Legal (op : Operation) (inTransaction : Bool) : Prop where
  verb : op.kind.shape = .singleton → op.verb = .update
  shape : op.address.shape = op.kind.shape
  housed : ∀ parent ∈ op.address.parent?, parent.kind ∈ op.kind.parents
  filled : ∀ identifier ∈ op.address.identifiers, Text.isBlank identifier.2 = false
  mode : inTransaction = true ∨ op.kind.runtime = true
  sent : op.verb ≠ .delete → ∃ payload ∈ op.payload, ∃ fields, payload.wire = .ok fields

-- What is sent of an operation: its address field by field, and the object of its payload, of which
-- a delete has none even where it has a payload.
structure Becomes (op : Operation) (mutation : Mutation) : Prop where
  verb : mutation.verb = op.verb
  kind : mutation.kind = op.kind
  target : op.kind.landing? op.address = some mutation.target
  bare : op.verb = .delete → mutation.body = none
  full : op.verb ≠ .delete → ∃ payload ∈ op.payload, ∃ fields, payload.wire = .ok fields ∧
    mutation.body = some (.object fields)

variable {op : Operation} {inTransaction : Bool}

theorem sending_met :
    (∀ r ∈ op.sending, r.met = true) ↔
      (op.verb ≠ .delete → ∃ payload ∈ op.payload, ∃ fields, payload.wire = .ok fields) := by
  unfold sending
  by_cases verb : op.verb = .delete
  · simp [verb]
  · cases op.payload with
    | none => simp [verb]
    | some payload =>
      cases made : payload.wire with
      | error error => simp [verb, made, failure?]
      | ok fields => simp [verb, made, failure?]

theorem legal_iff : op.Legal inTransaction ↔ ∀ r ∈ op.requirements inTransaction, r.met = true := by
  have sent := @sending_met op
  simp only [requirements, Section.addressing, Requirement.map, List.forall_mem_cons,
    List.forall_mem_append, List.forall_mem_map, List.map_cons, List.map_append, List.map_map,
    Function.comp_apply, Section.housing, Section.filling, decide_eq_true_eq, Bool.or_eq_true,
    Bool.not_eq_true', Option.mem_toList, sent]
  constructor
  · intro legal
    refine ⟨?_, ⟨legal.shape, legal.housed, legal.filled⟩, legal.mode, legal.sent⟩
    by_cases shape : op.kind.shape = .singleton
    · exact .inr (legal.verb shape)
    · exact .inl shape
  · rintro ⟨verb, ⟨shape, housed, filled⟩, mode, sent⟩
    exact ⟨fun single => verb.resolve_left (absurd single), shape, housed, filled, mode, sent⟩

theorem body_becomes {body : Option Json} (made : op.body = .ok body) :
    (op.verb = .delete → body = none) ∧
      (op.verb ≠ .delete → ∃ payload ∈ op.payload, ∃ fields, payload.wire = .ok fields ∧
        body = some (.object fields)) := by
  unfold Operation.body at made
  split at made
  · cases made
    exact ⟨fun _ => rfl, fun other => absurd ‹_› other⟩
  · split at made
    · cases made
    · split at made
      · cases made
      · cases made
        exact ⟨fun verb => absurd verb ‹_›, fun _ => ⟨_, ‹_›, _, ‹_›, rfl⟩⟩

theorem becomes_of_prepare (prepared : op.prepare inTransaction = .ok mutation) :
    op.Becomes mutation := by
  obtain ⟨-, -, landing, made, verb, kind⟩ := prepare_ok prepared
  obtain ⟨bare, full⟩ := body_becomes made
  exact ⟨verb, kind, landing.fields, bare, full⟩

theorem Becomes.unique (one : op.Becomes mutation) (other : op.Becomes mutation') :
    mutation = mutation' := by
  obtain ⟨verb, kind, target, body⟩ := mutation
  obtain ⟨verb', kind', target', body'⟩ := mutation'
  cases one.verb.trans other.verb.symm
  cases one.kind.trans other.kind.symm
  cases one.target.symm.trans other.target
  by_cases deletes : op.verb = .delete
  · cases (one.bare deletes).trans (other.bare deletes).symm
    rfl
  · obtain ⟨payload, given, fields, wire, rfl⟩ := one.full deletes
    obtain ⟨payload', given', fields', wire', rfl⟩ := other.full deletes
    cases given.symm.trans given'
    cases wire.symm.trans wire'
    rfl

-- The local checks accept just what is legal, change nothing of it, and complain of the first thing
-- that is wrong.
theorem prepare_exact (op : Operation) (inTransaction : Bool) :
    ((∃ mutation, op.prepare inTransaction = .ok mutation) ↔ op.Legal inTransaction) ∧
      (∀ mutation, op.prepare inTransaction = .ok mutation ↔
        op.Legal inTransaction ∧ op.Becomes mutation) ∧
      ∀ failure, op.prepare inTransaction = .error failure ↔ ∃ before after,
        op.requirements inTransaction = before ++ ⟨false, failure⟩ :: after ∧
          ∀ r ∈ before, r.met = true := by
  have accepted : (∃ mutation, op.prepare inTransaction = .ok mutation) ↔
      op.Legal inTransaction := by
    rw [← failure?_eq_none, failure?_prepare, objection?_eq_none, legal_iff]
  refine ⟨accepted, fun mutation => ⟨fun prepared => ?_, fun ⟨legal, becomes⟩ => ?_⟩, ?_⟩
  · exact ⟨accepted.mp ⟨mutation, prepared⟩, becomes_of_prepare prepared⟩
  · obtain ⟨other, prepared⟩ := accepted.mpr legal
    rw [becomes.unique (becomes_of_prepare prepared)]
    exact prepared
  · intro failure
    rw [← failure?_eq_some, failure?_prepare, objection?_eq_some]

end Operation
end Reconcile
