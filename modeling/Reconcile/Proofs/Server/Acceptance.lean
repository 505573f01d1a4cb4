import Mathlib.Data.List.Induction
import Mathlib.Data.List.ReduceOption
import Mathlib.Tactic.Ring
import Reconcile.Proofs.Server.Agreement

namespace Reconcile

-- A submission that was rejected because of its version.
def Asked.isConflict (a : Asked) : Bool :=
  match a.call, a.reply with
  | .submit _, some (.ok status) => status == conflictStatus
  | _, _ => false

-- The operations that have written, in that order.
def Server.accepted (s : Server) : List Nat := (writers s.deeds).reduceOption.reverse

theorem Asked.isSubmission_of_conflict {a : Asked} (conflict : a.isConflict = true) :
    a.isSubmission = true := by
  obtain ⟨call, reply⟩ := a
  cases call with
  | submit request => rfl
  | _ => cases conflict

theorem Asked.eq_of_conflict {a : Asked} (conflict : a.isConflict = true) :
    ∃ request, a = ⟨.submit request, some (.ok conflictStatus)⟩ := by
  unfold isConflict at conflict
  split at conflict
  · rename_i request status asked answered
    refine ⟨request, ?_⟩
    rw [← eq_of_beq conflict, ← asked, ← answered]
  · cases conflict

theorem countP_conflict_le (calls : List Asked) :
    calls.countP Asked.isConflict ≤ (submissions calls).length := by
  rw [submissions, ← List.countP_eq_length_filter]
  exact List.countP_mono_left fun a _ => Asked.isSubmission_of_conflict

-- When nobody else writes, the writers are those who have been accepted.
theorem map_reduceOption {writers : List (Option Nat)} (alone : none ∉ writers) :
    writers.reduceOption.map some = writers := by
  induction writers with
  | nil => rfl
  | cons writer older ih =>
    cases writer with
    | none => exact absurd (List.mem_cons_self ..) alone
    | some position =>
      rw [List.reduceOption_cons_of_some, List.map_cons,
        ih fun earlier => alone (List.mem_cons_of_mem _ earlier)]

-- Numbers that are bounded by their places in a list, from one on.
theorem sum_le_triangle {amount : Nat → Nat} (l : List Nat)
    (bounded : ∀ earlier position later, l = earlier ++ position :: later →
      amount position ≤ earlier.length + 1) :
    (l.map amount).sum * 2 ≤ l.length * (l.length + 1) := by
  induction l using List.reverseRecOn with
  | nil => exact Nat.zero_le _
  | append_singleton front last ih =>
    have before : (front.map amount).sum * 2 ≤ front.length * (front.length + 1) := by
      apply ih
      intro earlier position later split
      apply bounded earlier position (later ++ [last])
      rw [split, List.append_assoc, List.cons_append]
    have latest : amount last ≤ front.length + 1 := bounded front last [] rfl
    rw [List.map_append, List.sum_append, List.map_singleton, List.sum_singleton, List.length_append,
      List.length_singleton]
    calc ((front.map amount).sum + amount last) * 2
        = (front.map amount).sum * 2 + amount last * 2 := Nat.add_mul ..
      _ ≤ front.length * (front.length + 1) + (front.length + 1) * 2 := by omega
      _ = (front.length + 1) * (front.length + 1 + 1) := by ring

-- All submissions before the newest call are owed to the writes of others.
theorem Serving.owed {deeds : List Deed} {desk : Desk} (serving : Serving deeds position rounds desk)
    (called : desk ≠ .empty) :
    rounds + (writers deeds).count (some position) ≤ (writers deeds).length := by
  cases serving with
  | silent => exact absurd rfl called
  | accepted success once owed =>
    have written : some position ∈ writers deeds :=
      List.count_pos_iff.mp (Nat.lt_of_lt_of_eq Nat.zero_lt_one once.symm)
    obtain ⟨later, earlier, split⟩ := List.append_of_mem written
    have fewer := owed later earlier split
    have whole := congrArg List.length split
    rw [List.length_append, List.length_cons] at whole
    omega
  | _ unwritten =>
    rw [List.count_eq_zero_of_not_mem unwritten]
    omega

namespace Server.Agrees

variable {others : Bool} {heard : Nat → List Asked} {s : Server} {position : Nat}

theorem unwritten_of_silent (agrees : s.Agrees others heard) (silent : heard position = []) :
    some position ∉ writers s.deeds := by
  have seen := agrees.seen position
  have serving := agrees.stands.serving position
  rw [silent] at seen
  generalize s.desk position = desk at seen serving
  cases seen
  cases serving with
  | silent unwritten => exact unwritten

-- An operation has made no more submissions than there were writes up to its own.
theorem submissions_le (agrees : s.Agrees others heard)
    (split : writers s.deeds = later ++ some position :: earlier) :
    (submissions (heard position)).length ≤ earlier.length + 1 := by
  have written : some position ∈ writers s.deeds := by
    rw [split]
    exact List.mem_append_right _ (List.mem_cons_self ..)
  have seen := agrees.seen position
  have serving := agrees.stands.serving position
  generalize heard position = calls at seen serving ⊢
  generalize s.desk position = desk at seen serving
  cases serving with
  | accepted success once owed =>
    cases seen with
    | done same =>
      rw [submissions_submit, List.length_cons]
      exact Nat.succ_le_succ (owed later earlier split)
  | _ unwritten => exact absurd written unwritten

variable (position) in
-- Every conflict is owed to the write of somebody else.
theorem conflicts_le (agrees : s.Agrees others heard) :
    (heard position).countP Asked.isConflict + (writers s.deeds).count (some position) ≤
      (writers s.deeds).length := by
  have seen := agrees.seen position
  have serving := agrees.stands.serving position
  generalize heard position = calls at seen serving ⊢
  cases calls with
  | nil =>
    rw [List.countP_nil, Nat.zero_add]
    exact List.count_le_length
  | cons last calls =>
    have before : calls.countP Asked.isConflict ≤ (submissions calls).length :=
      countP_conflict_le calls
    rw [List.tail_cons] at serving
    cases conflict : last.isConflict with
    | true =>
      obtain ⟨request, rfl⟩ := Asked.eq_of_conflict conflict
      rw [seen.answered] at serving
      rw [List.countP_cons_of_pos conflict]
      cases serving with
      | refused unwritten owed =>
        rw [List.count_eq_zero_of_not_mem unwritten]
        omega
      | accepted success => cases success
    | false =>
      rw [List.countP_cons_of_neg (Bool.eq_false_iff.mp conflict)]
      have called : s.desk position ≠ .empty := by
        intro empty
        rw [empty] at seen
        cases seen
      have owed := serving.owed called
      omega

-- An answer to a submission is either of the two that there are.
theorem settled (agrees : s.Agrees others heard)
    (spoken : heard position = ⟨.submit request, some (.ok status)⟩ :: calls) :
    isSuccess status = true ∨ status = conflictStatus := by
  have seen := agrees.seen position
  have serving := agrees.stands.serving position
  rw [spoken] at seen
  rw [seen.answered] at serving
  cases serving with
  | refused => exact .inr rfl
  | accepted success => exact .inl success

theorem nodup_writers (agrees : s.Agrees false heard) : (writers s.deeds).Nodup := by
  rw [List.nodup_iff_count_le_one]
  intro writer
  cases writer with
  | none =>
    rw [List.count_eq_zero_of_not_mem (agrees.stands.alone rfl)]
    exact Nat.zero_le _
  | some position => exact (agrees.stands.serving position).count_le_one

theorem map_accepted (agrees : s.Agrees false heard) :
    s.accepted.reverse.map some = writers s.deeds := by
  rw [accepted, List.reverse_reverse]
  exact map_reduceOption (agrees.stands.alone rfl)

theorem mem_accepted (agrees : s.Agrees false heard) :
    position ∈ s.accepted ↔ some position ∈ writers s.deeds := by
  rw [← agrees.map_accepted, List.mem_map_of_injective (Option.some_injective _),
    List.mem_reverse]

theorem nodup_accepted (agrees : s.Agrees false heard) : s.accepted.Nodup := by
  have nodup := agrees.nodup_writers
  rw [← agrees.map_accepted] at nodup
  exact List.nodup_reverse.mp (List.Nodup.of_map _ nodup)

-- The one that is accepted after some others has been refused at most once for each of them.
theorem submissions_le_of_accepted (agrees : s.Agrees false heard)
    (split : s.accepted = earlier ++ position :: later) :
    (submissions (heard position)).length ≤ earlier.length + 1 := by
  have turned : writers s.deeds =
      later.reverse.map some ++ some position :: earlier.reverse.map some := by
    rw [← agrees.map_accepted, split]
    simp
  have bound := agrees.submissions_le turned
  rwa [List.length_map, List.length_reverse] at bound

-- Among operations that nobody else competes with, each meets at most one conflict with each other.
theorem conflicts_lt {positions : List Nat} (agrees : s.Agrees false heard)
    (known : s.accepted ⊆ positions) (own : position ∈ positions) :
    (heard position).countP Asked.isConflict < positions.length := by
  have bound := agrees.conflicts_le position
  have length : (writers s.deeds).length = s.accepted.length := by
    rw [← agrees.map_accepted, List.length_map, List.length_reverse]
  by_cases written : position ∈ s.accepted
  · have fewer : s.accepted.length ≤ positions.length :=
      agrees.nodup_accepted.length_le_of_subset known
    have once : 0 < (writers s.deeds).count (some position) :=
      List.count_pos_iff.mpr (agrees.mem_accepted.mp written)
    omega
  · have fewer : (position :: s.accepted).length ≤ positions.length :=
      (List.nodup_cons.mpr ⟨written, agrees.nodup_accepted⟩).length_le_of_subset
        (List.cons_subset.mpr ⟨own, known⟩)
    rw [List.length_cons] at fewer
    omega

-- When all have been accepted, each in its place, they have made no more submissions than these places
-- add up to.
theorem submissions_sum_le {positions : List Nat} (agrees : s.Agrees false heard)
    (everyone : s.accepted.Perm positions) :
    (positions.map fun position => (submissions (heard position)).length).sum ≤
      positions.length * (positions.length + 1) / 2 := by
  have total := sum_le_triangle s.accepted fun _ _ _ split => agrees.submissions_le_of_accepted split
  rw [(everyone.map _).sum_nat, everyone.length_eq] at total
  exact (Nat.le_div_iff_mul_le Nat.two_pos).mpr total

end Server.Agrees
end Reconcile
