import Reconcile.Submission.Prepare

namespace Reconcile

theorem bind_eq_ok {x : Except ε α} {f : α → Except ε β} {b : β} :
    x >>= f = .ok b ↔ ∃ a, x = .ok a ∧ f a = .ok b := by
  cases x with
  | error e => exact ⟨nofun, nofun⟩
  | ok a => exact ⟨fun h => ⟨a, rfl, h⟩, fun ⟨_, same, h⟩ => Except.ok.inj same ▸ h⟩

theorem Section.required_ok {s : Section} {field text found : String} :
    s.required field text = .ok found ↔ Text.isBlank text = false ∧ found = text := by
  unfold Section.required
  cases Text.isBlank text with
  | true => exact ⟨nofun, nofun⟩
  | false => exact ⟨fun h => ⟨rfl, (Except.ok.inj h).symm⟩, fun ⟨_, same⟩ => same ▸ rfl⟩

theorem Section.checkedParent_ok {s : Section} {parent found : Parent}
    (h : s.checkedParent parent = .ok found) :
    s.acceptsParent parent.kind = true ∧ Text.isBlank parent.name = false ∧ found = parent := by
  unfold Section.checkedParent at h
  split at h
  · cases h
  · rename_i accepted
    obtain ⟨name, named, made⟩ := bind_eq_ok.mp h
    obtain ⟨given, rfl⟩ := required_ok.mp named
    exact ⟨Bool.not_eq_false _ |>.mp accepted, given, (Except.ok.inj made).symm⟩

-- All the ways in which an address is accepted: it has the shape of its section, nothing in it is
-- blank, and it lands where it says.
inductive Landing (s : Section) : Address → Target → Prop where
  | singleton (shape : s.shape = .singleton) : Landing s .singleton .singleton
  | named (shape : s.shape = .topLevel) (given : Text.isBlank name = false) :
      Landing s (.named name) (.named name)
  | child (shape : s.shape = .namedChild) (accepted : s.acceptsParent parent.kind = true)
      (inside : Text.isBlank parent.name = false) (given : Text.isBlank name = false) :
      Landing s (.child parent name) (.child parent name)
  | indexed (shape : s.shape = .indexedChild) (accepted : s.acceptsParent parent.kind = true)
      (inside : Text.isBlank parent.name = false) :
      Landing s (.indexed parent index) (.indexed parent index)
  | contained (shape : s.shape = .scopedChild) (holder : s.parents.head? = some kind)
      (inside : Text.isBlank container = false) (given : Text.isBlank name = false) :
      Landing s (.contained container name) (.contained ⟨kind, container⟩ name)

theorem Section.target_ok {s : Section} {address : Address} {target : Target}
    (h : s.target address = .ok target) : Landing s address target := by
  unfold Section.target at h
  split at h
  · cases h
    exact .singleton ‹_›
  · obtain ⟨_, named, made⟩ := bind_eq_ok.mp h
    obtain ⟨given, rfl⟩ := required_ok.mp named
    cases made
    exact .named ‹_› given
  · obtain ⟨_, placed, h⟩ := bind_eq_ok.mp h
    obtain ⟨_, named, made⟩ := bind_eq_ok.mp h
    obtain ⟨accepted, inside, rfl⟩ := checkedParent_ok placed
    obtain ⟨given, rfl⟩ := required_ok.mp named
    cases made
    exact .child ‹_› accepted inside given
  · obtain ⟨_, placed, made⟩ := bind_eq_ok.mp h
    obtain ⟨accepted, inside, rfl⟩ := checkedParent_ok placed
    cases made
    exact .indexed ‹_› accepted inside
  · split at h
    · obtain ⟨_, held, h⟩ := bind_eq_ok.mp h
      obtain ⟨_, named, made⟩ := bind_eq_ok.mp h
      obtain ⟨inside, rfl⟩ := required_ok.mp held
      obtain ⟨given, rfl⟩ := required_ok.mp named
      cases made
      exact .contained ‹_› ‹_› inside given
    · cases h
  · cases h

namespace Operation

-- Whatever is not deleted is sent with a body.
theorem body_ok {op : Operation} {body : Option Json} (h : op.body = .ok body)
    (other : op.verb ≠ .delete) : ∃ fields, body = some (.object fields) := by
  unfold Operation.body at h
  split at h
  · exact absurd ‹_› other
  · split at h
    · cases h
    · split at h
      · cases h
      · cases h
        exact ⟨_, rfl⟩

theorem isLocal_of_body {op : Operation} {failure : Failure}
    (unfit : op.body = .error failure) : failure.isLocal = true := by
  unfold body at unfit
  split at unfit
  · cases unfit
  · split at unfit
    · cases unfit
      rfl
    · split at unfit
      · cases unfit
        rfl
      · cases unfit

-- An operation that is refused at once is refused by a local check.
theorem isLocal_of_prepare {op : Operation} {inTransaction : Bool} {failure : Failure}
    (unfit : op.prepare inTransaction = .error failure) : failure.isLocal = true := by
  unfold prepare at unfit
  split at unfit
  · cases unfit
    rfl
  · split at unfit
    · cases unfit
      rfl
    · split at unfit
      · cases unfit
        rfl
      · split at unfit
        · cases unfit
          exact isLocal_of_body ‹_›
        · cases unfit

-- All that a prepared operation has passed, and what it becomes.
theorem prepare_ok {op : Operation} {inTransaction : Bool} {mutation : Mutation}
    (h : op.prepare inTransaction = .ok mutation) :
    op.kind.shape.supports op.verb = true ∧ (inTransaction = true ∨ op.kind.runtime = true) ∧
      Landing op.kind op.address mutation.target ∧ op.body = .ok mutation.body ∧
      mutation.verb = op.verb ∧ mutation.kind = op.kind := by
  unfold prepare at h
  split at h
  · cases h
  · rename_i supported
    split at h
    · cases h
    · rename_i target landed
      split at h
      · cases h
      · rename_i allowed
        split at h
        · cases h
        · rename_i body bodied
          cases h
          refine ⟨by simpa using supported, ?_, Section.target_ok landed, bodied, rfl, rfl⟩
          cases inTransaction with
          | true => exact .inl rfl
          | false => exact .inr (by simpa using allowed)

end Operation
end Reconcile
