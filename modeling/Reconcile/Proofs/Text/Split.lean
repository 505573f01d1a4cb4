import Mathlib.Data.List.Basic
import Mathlib.Data.String.Basic
import Reconcile.Text.Split

namespace Reconcile.Text

-- A text is read up to the first character that cannot belong to it.
theorem front_unique {stop : Char → Bool} {front other rest last : List Char}
    (plain : ∀ c ∈ front, stop c = false) (plain' : ∀ c ∈ other, stop c = false)
    (ends : ∀ c ∈ rest.head?, stop c = true) (ends' : ∀ c ∈ last.head?, stop c = true)
    (same : front ++ rest = other ++ last) : front = other ∧ rest = last := by
  induction front generalizing other with
  | nil =>
    cases other with
    | nil => exact ⟨rfl, same⟩
    | cons c cs =>
      have stops : stop c = true := ends c (by rw [← List.nil_append rest, same]; rfl)
      cases (plain' c (List.mem_cons_self ..)).symm.trans stops
  | cons c cs ih =>
    cases other with
    | nil =>
      have stops : stop c = true := ends' c (by rw [← List.nil_append last, ← same]; rfl)
      cases (plain c (List.mem_cons_self ..)).symm.trans stops
    | cons d ds =>
      obtain ⟨rfl, more⟩ := List.cons.inj same
      obtain ⟨rfl, after⟩ := ih (fun c mem => plain c (List.mem_cons_of_mem _ mem))
        (fun c mem => plain' c (List.mem_cons_of_mem _ mem)) more
      exact ⟨rfl, after⟩

variable {isSeparator : Char → Bool}

theorem split_append {c : Char} (separates : isSeparator c = true) (front rest : List Char) :
    split isSeparator (front ++ c :: rest) = split isSeparator front ++ split isSeparator rest := by
  induction front with
  | nil => simp [split, separates]
  | cons d front ih =>
    rw [List.cons_append, split, split, ih]
    by_cases mark : isSeparator d = true
    · rw [if_pos mark, if_pos mark, List.cons_append]
    · rw [if_neg mark, if_neg mark]
      obtain ⟨piece, more, pieces⟩ := List.exists_cons_of_ne_nil (split_ne_nil isSeparator front)
      rw [pieces]
      rfl

theorem split_of_plain {cs : List Char} (plain : ∀ c ∈ cs, isSeparator c = false) :
    split isSeparator cs = [cs] := by
  induction cs with
  | nil => rfl
  | cons c cs ih =>
    obtain ⟨first, others⟩ := List.forall_mem_cons.mp plain
    rw [split, if_neg (by simp [first]), ih others]

-- Words that come after a separator each are pieces of their own.
theorem split_marked {mark : Char} (separates : isSeparator mark = true)
    {words : List (List Char)} (plain : ∀ word ∈ words, ∀ c ∈ word, isSeparator c = false)
    (front : List Char) : split isSeparator (front ++ words.flatMap (mark :: ·)) =
      split isSeparator front ++ words := by
  induction words generalizing front with
  | nil => simp
  | cons word words ih =>
    obtain ⟨first, others⟩ := List.forall_mem_cons.mp plain
    have regrouped : front ++ (word :: words).flatMap (mark :: ·) =
        (front ++ mark :: word) ++ words.flatMap (mark :: ·) := by simp
    rw [regrouped, ih others, split_append separates, split_of_plain first, List.append_assoc]
    rfl

theorem cut_marked {c : Char} (separates : isSeparator c = true) {front : List Char}
    (plain : ∀ d ∈ front, isSeparator d = false) (rest : List Char) :
    cut isSeparator (front ++ c :: rest) = (front, some rest) := by
  have stays : ∀ d ∈ front, (!isSeparator d) = true := by
    intro d mem
    rw [plain d mem]
    rfl
  have stops : ¬(!isSeparator c) = true := by simp [separates]
  rw [cut, List.dropWhile_append_of_pos stays,
    List.dropWhile_cons_of_neg (p := (!isSeparator ·)) stops, List.takeWhile_append_of_pos stays,
    List.takeWhile_cons_of_neg (p := (!isSeparator ·)) stops, List.append_nil]

theorem intercalate_cons (mark : List Char) (word : List Char) (words : List (List Char)) :
    mark.intercalate (word :: words) = word ++ words.flatMap (mark ++ ·) := by
  induction words generalizing word with
  | nil => simp
  | cons next words ih =>
    rw [List.intercalate_cons_cons, ih, List.flatMap_cons]
    simp only [List.append_assoc]

-- Words that were joined by a separator, and hold none themselves, are the pieces between.
theorem split_intercalate {sep : String} {mark : Char} (alone : sep.toList = [mark])
    (separates : isSeparator mark = true) {words : List String} (some : words ≠ [])
    (plain : ∀ word ∈ words, ∀ c ∈ word.toList, isSeparator c = false) :
    split isSeparator (sep.intercalate words).toList = words.map String.toList := by
  obtain ⟨word, words, rfl⟩ := List.exists_cons_of_ne_nil some
  obtain ⟨first, others⟩ := List.forall_mem_cons.mp plain
  have further : ∀ piece ∈ words.map String.toList, ∀ c ∈ piece, isSeparator c = false := by
    intro piece mem
    obtain ⟨text, listed, rfl⟩ := List.mem_map.mp mem
    exact others text listed
  have joined := split_marked separates further word.toList
  rw [split_of_plain first] at joined
  rw [String.toList_intercalate, alone, List.map_cons, intercalate_cons]
  exact joined

end Reconcile.Text
