import Reconcile.Proofs.Positions.Edit

namespace Reconcile

-- A list without the entries at some positions: each other entry moves to its slot.
structure Thinned (gone : List Nat) (before after : List α) : Prop where
  length : after.length + gone.length = before.length
  kept : ∀ j, j ∉ gone → after[slot gone j]? = before[j]?

-- A list with new entries at some positions and others in place of what was at some more: each
-- other entry has its old place among the positions that are not new.
structure Filled (added changed : List Nat) (before after : List α) : Prop where
  length : after.length = before.length + added.length
  kept : ∀ j, j ∉ added → j ∉ changed → after[j]? = before[slot added j]?

-- What remains of a list stands, in its old order, at the positions that are not new. Only an entry
-- at a changed position may differ from what stood there.
structure Rearranged (gone added changed : List Nat) (before after : List α) : Prop where
  length : after.length = before.length - gone.length + added.length
  kept : List.Forall₂ (fun new old => new ∉ changed → after[new]? = before[old]?)
    (free added after.length) (free gone before.length)

theorem Rearranged.perm {before after : List α} (h : Rearranged gone added changed before after)
    (sameGone : gone.Perm gone') (sameAdded : added.Perm added')
    (sameChanged : changed.Perm changed') : Rearranged gone' added' changed' before after := by
  have free_perm : ∀ {one two : List Nat} (n : Nat), one.Perm two → free one n = free two n :=
    fun n same => List.filter_congr fun i _ => by simp [same.mem_iff]
  refine ⟨by rw [h.length, sameGone.length_eq, sameAdded.length_eq], ?_⟩
  rw [← free_perm _ sameGone, ← free_perm _ sameAdded]
  exact h.kept.imp fun new old same apart => same fun mem => apart (sameChanged.subset mem)

theorem length_free_of_bound {taken : List Nat} (distinct : taken.Nodup) {n : Nat}
    (inside : ∀ t ∈ taken, t < n) : (free taken n).length + taken.length = n := by
  have count := length_free distinct n
  rwa [List.countP_eq_length.mpr fun t mem => by simpa using inside t mem] at count

theorem Thinned.fill {before middle after : List α} (thinned : Thinned gone before middle)
    (filled : Filled added changed middle after) (distinctGone : gone.Nodup)
    (distinctAdded : added.Nodup) (insideGone : ∀ i ∈ gone, i < before.length)
    (insideAdded : ∀ i ∈ added, i < after.length) : Rearranged gone added changed before after := by
  have old := length_free_of_bound distinctGone insideGone
  have new := length_free_of_bound distinctAdded insideAdded
  have thin := thinned.length
  have full := filled.length
  refine ⟨by omega, List.forall₂_iff_get.mpr ⟨by omega, ?_⟩⟩
  intro k atNew atOld unchanged
  obtain ⟨_, notAdded, newSlot⟩ := slot_of_free distinctAdded (List.getElem?_eq_getElem atNew)
  obtain ⟨_, notGone, oldSlot⟩ := slot_of_free distinctGone (List.getElem?_eq_getElem atOld)
  rw [List.get_eq_getElem] at unchanged
  simp only [List.get_eq_getElem]
  rw [filled.kept _ notAdded unchanged, newSlot, ← thinned.kept _ notGone, oldSlot]

theorem Filled.append {before middle after : List α} (now : Filled one changed before middle)
    (later : Filled two changed' middle after) (sorted : two.Pairwise (· < ·))
    (above : ∀ i ∈ one, ∀ t ∈ two, i < t) (aboveChanged : ∀ i ∈ changed, ∀ t ∈ two, i < t) :
    Filled (one ++ two) (changed ++ changed') before after := by
  refine ⟨by rw [later.length, now.length, List.length_append, Nat.add_assoc], ?_⟩
  intro j notAdded notChanged
  rw [List.mem_append, not_or] at notAdded notChanged
  have apart : slot two j ∉ one := fun mem =>
    notAdded.1 (slot_eq_of_lt sorted (above _ mem) ▸ mem)
  have apartChanged : slot two j ∉ changed := fun mem =>
    notChanged.1 (slot_eq_of_lt sorted (aboveChanged _ mem) ▸ mem)
  rw [later.kept j notAdded.2 notChanged.2, now.kept _ apart apartChanged,
    slot_append sorted above]

namespace Edit

-- Deletes from the last position to the first: none of them moves what the later ones name.
theorem run_descending {l : List α} {edits : List (Edit α)}
    (only : ∀ e ∈ edits, e.verb = .delete)
    (sorted : (edits.map (·.index)).Pairwise (fun i j => j < i))
    (inside : ∀ e ∈ edits, e.index < l.length) :
    Sound l edits ∧ Thinned (edits.map (·.index)) l (run l edits) := by
  induction edits generalizing l with
  | nil => exact ⟨trivial, rfl, fun j _ => by simp [run, slot]⟩
  | cons e rest ih =>
    obtain ⟨first, sorted⟩ := List.pairwise_cons.mp sorted
    have lower : ∀ i ∈ rest.map (·.index), i < e.index := first
    have verb := only e (List.mem_cons_self ..)
    have bound := inside e (List.mem_cons_self ..)
    have applied : e.apply l = l.eraseIdx e.index := by simp [apply, verb]
    have shorter := List.length_eraseIdx_of_lt bound
    obtain ⟨sound, length, kept⟩ := ih (l := e.apply l)
      (fun r mem => only r (List.mem_cons_of_mem _ mem)) sorted
      (fun r mem => by
        have := lower r.index (List.mem_map_of_mem mem)
        rw [applied, shorter]
        omega)
    refine ⟨⟨by simpa [Verb.Admits, verb] using bound, sound⟩, ?_, ?_⟩
    · rw [applied, shorter] at length
      simp only [run, List.foldl_cons, List.map_cons, List.length_cons] at length ⊢
      rw [applied]
      omega
    · intro j other
      obtain ⟨apart, others⟩ : j ≠ e.index ∧ j ∉ rest.map (·.index) := by
        simpa only [List.map_cons, List.mem_cons, not_or] using other
      change (run (e.apply l) rest)[slot (e.index :: rest.map (·.index)) j]? = l[j]?
      rcases Nat.lt_or_gt_of_ne apart with below | above
      · rw [slot_cons_of_ge (Nat.le_of_lt below), kept j others, applied,
          List.getElem?_eraseIdx_of_lt below]
      · -- What follows the deleted entry has moved down by one.
        have under : ∀ i ∈ rest.map (·.index), i < j - 1 := fun i mem => by
          have := lower i mem
          omega
        have moved := kept (j - 1) fun mem => Nat.lt_irrefl _ (under _ mem)
        rw [slot_of_lt under, applied, List.getElem?_eraseIdx_of_ge (by omega),
          Nat.sub_add_cancel (by omega)] at moved
        rw [slot_cons_of_lt above, slot_of_lt fun i mem => by have := under i mem; omega,
          show j - (rest.map (·.index)).length - 1 = j - 1 - (rest.map (·.index)).length by omega,
          applied, moved]

theorem apply_filled {l : List α} {e : Edit α} (verb : e.verb ≠ .delete)
    (admitted : e.verb.Admits e.index l.length) :
    Filled (indexes .create [e]) (indexes .update [e]) l (e.apply l) ∧
      (e.apply l)[e.index]? = some e.entry := by
  cases kind : e.verb with
  | create =>
    have bound : e.index ≤ l.length := by simpa [Verb.Admits, kind] using admitted
    have applied : e.apply l = l.insertIdx e.index e.entry := by simp [apply, kind]
    rw [applied, indexes_cons_of_eq e [] kind, List.getElem?_insertIdx_self, if_pos bound]
    refine ⟨⟨List.length_insertIdx_of_le_length bound _, fun j apart _ => ?_⟩, rfl⟩
    rcases Nat.lt_or_gt_of_ne (List.ne_of_not_mem_cons apart) with below | above
    · rw [slot_cons_of_ge (Nat.le_of_lt below), List.getElem?_insertIdx_of_lt below]
      rfl
    · rw [slot_cons_of_lt above, List.getElem?_insertIdx_of_gt above]
      rfl
  | update =>
    have bound : e.index < l.length := by simpa [Verb.Admits, kind] using admitted
    have applied : e.apply l = l.set e.index e.entry := by simp [apply, kind]
    rw [applied, indexes_cons_of_eq e [] kind, indexes_cons_of_ne e [] (by simp [kind])]
    refine ⟨⟨by simp [indexes], fun j _ apart => ?_⟩, by simp [bound]⟩
    rw [List.getElem?_set_ne fun same => apart (by simp [indexes, same])]
    rfl
  | delete => exact absurd kind verb

-- Creates and updates from the first position to the last. Each entry is created where it is to be
-- in the end, because all that is still to be created comes behind it.
theorem run_ascending {l : List α} {edits : List (Edit α)} (only : ∀ e ∈ edits, e.verb ≠ .delete)
    (sorted : (edits.map (·.index)).Pairwise (· < ·))
    (inside : ∀ e ∈ edits, e.index < l.length + (indexes .create edits).length) :
    Sound l edits ∧ Filled (indexes .create edits) (indexes .update edits) l (run l edits) ∧
      ∀ e ∈ edits, (run l edits)[e.index]? = some e.entry := by
  induction edits generalizing l with
  | nil => exact ⟨trivial, ⟨rfl, fun j _ _ => by simp [run, slot, indexes]⟩, by simp⟩
  | cons e rest ih =>
    obtain ⟨first, sorted⟩ := List.pairwise_cons.mp sorted
    have higher : ∀ verb, ∀ i ∈ indexes verb rest, e.index < i := fun verb i mem =>
      first i ((indexes_sublist verb rest).subset mem)
    have ascending := sorted.sublist (indexes_sublist .create rest)
    have own : ∀ verb, ∀ i ∈ indexes verb [e], i = e.index := fun verb i mem => by
      obtain ⟨r, only, _, rfl⟩ := mem_indexes.mp mem
      rw [List.eq_of_mem_singleton only]
    -- All that is still to be created finds its place between this position and the end.
    have room : e.index + (indexes .create rest).length <
        l.length + (indexes .create (e :: rest)).length := by
      refine length_lt_of_ascending (inside e (List.mem_cons_self ..)) ascending fun i mem => ?_
      obtain ⟨r, mem', _, rfl⟩ := mem_indexes.mp mem
      exact ⟨higher _ _ mem, inside r (List.mem_cons_of_mem _ mem')⟩
    have verb := only e (List.mem_cons_self ..)
    have admitted : e.verb.Admits e.index l.length := by
      rw [indexes_cons] at room
      cases kind : e.verb with
      | create => simp [Verb.Admits, indexes, kind] at room ⊢; omega
      | update => simp [Verb.Admits, indexes, kind] at room ⊢; omega
      | delete => exact absurd kind verb
    obtain ⟨now, entered⟩ := apply_filled verb admitted
    obtain ⟨sound, later, placed⟩ := ih (l := e.apply l)
      (fun r mem => only r (List.mem_cons_of_mem _ mem)) sorted (fun r mem => by
        have bound := inside r (List.mem_cons_of_mem _ mem)
        rw [indexes_cons, List.length_append] at bound
        rw [now.length]
        omega)
    refine ⟨⟨admitted, sound⟩, ?_, ?_⟩
    · rw [indexes_cons, indexes_cons .update]
      exact now.append later ascending
        (fun i mem t mem' => own _ i mem ▸ higher _ t mem')
        (fun i mem t mem' => own _ i mem ▸ higher _ t mem')
    · intro r mem
      rcases List.mem_cons.mp mem with rfl | mem
      · change (run (r.apply l) rest)[r.index]? = _
        have apart : ∀ verb, r.index ∉ indexes verb rest := fun verb mem =>
          Nat.lt_irrefl _ (higher verb _ mem)
        rw [later.kept _ (apart _) (apart _),
          slot_of_ge fun t mem => Nat.le_of_lt (higher _ t mem), entered]
      · exact placed r mem

end Edit
end Reconcile
