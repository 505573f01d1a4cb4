import Mathlib.Tactic.Common
import Reconcile.Proofs.Submission.Backoff
import Reconcile.Proofs.Toml.Bounds
import Reconcile.Settings.Validation

namespace Reconcile

open Toml (Node)

namespace Settings

variable {group node : Node}

theorem field_bounded (bounded : group.Bounded) (found : field position name group = some node) :
    node.Bounded := by
  cases bounded with
  | list items => exact items node (List.mem_of_getElem? found)
  | table fields => exact Toml.Fields.Bounded.get? fields found
  | tables items => exact items node (List.mem_reverse.mp (List.mem_of_getElem? found))
  | _ => cases found

-- What is read was written and decoded, or it is what stands for nothing written.
theorem read_cases {decode : Node → Option α} {unwritten value : α}
    (found : read group position name unwritten decode = some value) : value = unwritten ∨
      ∃ node, field position name group = some node ∧ decode node = some value := by
  unfold read at found
  split at found
  · cases found
    exact .inl rfl
  · exact .inr ⟨_, ‹_›, found⟩

theorem word64?_small (bounded : node.Bounded) (read : word64? node = some word) :
    word.toNat < Word.half64 := by
  unfold word64? at read
  split at read
  · obtain ⟨⟨positive, -⟩, same⟩ := Option.ite_none_right_eq_some.mp read
    cases bounded with
    | integer fits =>
      simp only [Toml.inRange, Bool.and_eq_true, decide_eq_true_eq] at fits
      rw [← Option.some.inj same, UInt64.toNat_ofNat']
      unfold Word.half64 at fits ⊢
      omega
  · cases read

theorem usual_small : ({} : ApplySettings).backoffMaxMs.toNat < Word.half64 := by decide

theorem applyOf?_small {settings : ApplySettings} (bounded : group.Bounded)
    (read : applyOf? group = some settings) : settings.backoffMaxMs.toNat < Word.half64 := by
  unfold applyOf? at read
  split at read
  · cases read
  · simp only [Option.bind_eq_bind, Option.bind_eq_some_iff] at read
    obtain ⟨retries, -, base, -, largest, found, deadline, -, onward, -, together, -, made⟩ := read
    cases made
    rcases read_cases found with same | ⟨node, written, decoded⟩
    · exact same ▸ usual_small
    · exact word64?_small (field_bounded bounded written) decoded

-- The largest delay that settings of a document can ask for is a signed word.
theorem ofToml?_small {settings : Settings} (read : ofToml? text = some settings) :
    settings.apply.backoffMaxMs.toNat < Word.half64 := by
  obtain ⟨document, parsed, decoded⟩ := Option.bind_eq_some_iff.mp read
  unfold ofDocument? at decoded
  simp only [Option.bind_eq_bind, Option.bind_eq_some_iff] at decoded
  obtain ⟨connection, -, apply, found, observability, -, made⟩ := decoded
  cases made
  rcases read_cases found with same | ⟨node, written, decoded⟩
  · exact same ▸ usual_small
  · exact applyOf?_small (field_bounded (Toml.parse?_bounded parsed) written) decoded

theorem ofToml?_of_parse {settings : Settings} (accepted : parse text password = .ok settings) :
    ∃ written, ofToml? text = some written ∧ settings.apply = written.apply := by
  unfold parse validate at accepted
  split at accepted
  · cases accepted
  · rename_i written found
    split at accepted
    · cases accepted
      refine ⟨written, found, ?_⟩
      cases password <;> rfl
    · cases accepted

end Settings

namespace ApplySettings

-- A deadline that instants can hold when it is counted from now.
def Reachable (s : ApplySettings) (now : Nat) : Prop :=
  ∀ secs ∈ s.deadlineSecs, now / 1000 + secs.toNat < Context.secondsLimit

instance (s : ApplySettings) (now : Nat) : Decidable (s.Reachable now) :=
  decidable_of_iff
    (s.deadlineSecs.all fun secs => decide (now / 1000 + secs.toNat < Context.secondsLimit)) (by
      simp only [Option.all_eq_true, decide_eq_true_eq]
      rfl)

theorem context_eq (s : ApplySettings) (now : Nat) : s.context now =
    if s.Reachable now then .ok ⟨s.deadlineSecs.map (now + ·.toNat * 1000), s.policy⟩
    else .error .deadline := by
  obtain ⟨retries, base, largest, deadline, onward, together⟩ := s
  cases deadline <;> simp [context, Context.within, Reachable, policy]

end ApplySettings

namespace Settings

-- Settings that have been read from a document and found good: all that can go wrong with them later
-- is the deadline, when it is beyond the instants that there are. No delay between two submissions
-- leaves its word, whatever their number and whatever is drawn.
theorem accepted_settings_hold (text : String) (password : Option String) (settings : Settings)
    (accepted : parse text password = .ok settings) :
    (∀ now, settings.apply.context now =
      if settings.apply.Reachable now then
        .ok ⟨settings.apply.deadlineSecs.map (now + ·.toNat * 1000), settings.apply.policy⟩
      else .error .deadline) ∧
    ∀ now context, settings.apply.context now = .ok context →
      ∀ attempt draw, ∃ delay, context.policy.delay attempt draw = .ok delay := by
  obtain ⟨written, read, same⟩ := ofToml?_of_parse accepted
  refine ⟨settings.apply.context_eq, fun now context made attempt draw => ?_⟩
  rw [ApplySettings.context_eq] at made
  split at made
  · cases made
    refine Policy.delay_ok ?_ attempt draw
    rw [same]
    exact ofToml?_small read
  · cases made

-- The largest integers of a document everywhere.
def farText : String :=
  "[apply]\nconflict_backoff_base_ms = 9223372036854775807\n" ++
    "conflict_backoff_max_ms = 9223372036854775807\ndeadline_secs = 9223372036854775807\n"

def farSettings : Settings :=
  { apply := {
      backoffBaseMs := 9223372036854775807
      backoffMaxMs := 9223372036854775807
      deadlineSecs := some 9223372036854775807 } }

theorem farSettings_hold :
    parse farText none = .ok farSettings ∧
      farSettings.apply.context 999 = .ok ⟨some 9223372036854775807999, farSettings.apply.policy⟩ ∧
      ∃ delay, farSettings.apply.policy.delay 9 18446744073709551615 = .ok delay := by
  have accepted : parse farText none = .ok farSettings := by decide +kernel
  obtain ⟨contexts, delays⟩ := accepted_settings_hold farText none farSettings accepted
  have made := contexts 999
  rw [if_pos (by decide)] at made
  exact ⟨accepted, made, delays 999 _ made 9 18446744073709551615⟩

-- One second after the first instant the same deadline is beyond the last one.
theorem farSettings_overflow :
    parse farText none = .ok farSettings ∧
      farSettings.apply.context 1000 = .error .deadline := by
  refine ⟨by decide +kernel, ?_⟩
  rw [ApplySettings.context_eq, if_neg (by decide)]

end Settings
end Reconcile
