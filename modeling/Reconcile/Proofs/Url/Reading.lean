import Reconcile.Proofs.Text.Split
import Reconcile.Proofs.Url.Building

namespace Reconcile

namespace Url

-- The bytes of a text in UTF-8. No other text has the same.
def bytes (text : String) : List UInt8 := text.toList.flatMap String.utf8EncodeChar

-- What a path says: the pieces between its slashes, with their escapes resolved.
def readPath (cs : List Char) : List (List UInt8) := (Text.split (· == '/') cs).map unescape

-- What a key or a value of a query says. Spaces are written as plus signs there.
def readForm (cs : List Char) : List UInt8 := unescape (cs.map spaced)

-- A pair is divided at its first equals sign.
def readPair (cs : List Char) : List UInt8 × List UInt8 :=
  let (key, value) := Text.cut (· == '=') cs
  (readForm key, readForm (value.getD []))

-- What a query says: its pairs, as a form is read. Where two ampersands meet there is no pair.
def readQuery (cs : List Char) : List (List UInt8 × List UInt8) :=
  ((Text.split (· == '&') cs).filter (!·.isEmpty)).map readPair

def pairBytes (pair : String × String) : List UInt8 × List UInt8 := (bytes pair.1, bytes pair.2)

theorem unescape_segment (text : String) : unescape (segment text) = bytes text := by
  have percent : inSpecialSegment '%' = true := by decide
  exact unescape_escape percent _

theorem readForm_formText (text : String) : readForm (formText text).toList = bytes text := by
  have percent : inForm '%' = true := by decide
  rw [readForm, formText_eq, map_spaced_plus, unescape_escape percent, bytes]

theorem unslashed_segment (text : String) : ∀ c ∈ segment text, (c == '/') = false := by
  intro c mem
  rw [beq_eq_false_iff_ne]
  rintro rfl
  exact not_mem_escape (by decide) (by decide) (by decide) _ mem

-- Segments that are added to a path are read back after those that are there.
theorem readPath_segments (above : List (List Char)) (texts : List String) :
    readPath (segmentsText (above ++ texts.map segment)) =
      readPath (segmentsText above) ++ texts.map bytes := by
  have plain : ∀ word ∈ texts.map segment, ∀ c ∈ word, (c == '/') = false := by
    intro word mem
    obtain ⟨text, -, rfl⟩ := List.mem_map.mp mem
    exact unslashed_segment text
  rw [readPath, segmentsText, List.flatMap_append, Text.split_marked (by rfl) plain, List.map_append,
    List.map_map]
  exact congrArg _ (List.map_congr_left fun text _ => unescape_segment text)

theorem readPair_pairText (pair : String × String) : readPair (pairText pair) = pairBytes pair := by
  have text : pairText pair = (formText pair.1).toList ++ '=' :: (formText pair.2).toList := by
    rw [pairText, String.toList_append, String.toList_append, List.append_assoc]
    rfl
  rw [readPair, text, Text.cut_marked (by rfl) (unmarked_formText (.inl rfl) _)]
  simp only [Option.getD_some, readForm_formText, pairBytes]

theorem readQuery_append (front rest : List Char) :
    readQuery (front ++ '&' :: rest) = readQuery front ++ readQuery rest := by
  rw [readQuery, Text.split_append (by rfl), List.filter_append, List.map_append]
  rfl

theorem readQuery_pairText (pair : String × String) :
    readQuery (pairText pair) = [pairBytes pair] := by
  rw [readQuery, Text.split_of_plain (unmarked_pairText pair)]
  simp [pairText_ne_nil, readPair_pairText]

theorem readQuery_pairs (front : List Char) (pairs : List (String × String)) :
    readQuery (front ++ (pairs.map pairText).flatMap ('&' :: ·)) =
      readQuery front ++ pairs.map pairBytes := by
  induction pairs generalizing front with
  | nil => simp
  | cons pair pairs ih =>
    rw [List.map_cons, List.flatMap_cons, ← List.append_assoc, ih, readQuery_append,
      readQuery_pairText, List.append_assoc]
    rfl

-- What is added to a query is read after its own pairs.
theorem readQuery_opened (query : Option (List Char)) (rest : List Char) :
    readQuery (opened query ++ rest) = readQuery (query.getD []) ++ readQuery rest := by
  rcases query with - | - | ⟨c, query⟩
  · rfl
  · rfl
  · have added : opened (some (c :: query)) ++ rest = (c :: query) ++ '&' :: rest := by
      simp [opened]
    rw [added, readQuery_append]
    rfl

end Url
end Reconcile
