import Reconcile.Proofs.Text.Split
import Reconcile.Proofs.Url.Encoding
import Reconcile.Url.Path

namespace Reconcile.Url

-- What words that come after a mark each can be followed by.
structure Ends (mark : Char) (stop : Char → Bool) (rest : List Char) : Prop where
  other : ∀ c ∈ rest.head?, c ≠ mark
  stops : ∀ c ∈ rest.head?, stop c = true

theorem marked_unique {mark : Char} {stop : Char → Bool} (marks : stop mark = true)
    {words others : List (List Char)} {rest last : List Char}
    (plain : ∀ word ∈ words, ∀ c ∈ word, stop c = false)
    (plain' : ∀ word ∈ others, ∀ c ∈ word, stop c = false)
    (ends : Ends mark stop rest) (ends' : Ends mark stop last)
    (same : words.flatMap (mark :: ·) ++ rest = others.flatMap (mark :: ·) ++ last) :
    words = others ∧ rest = last := by
  have stopped : ∀ (words : List (List Char)) {rest : List Char}, Ends mark stop rest →
      ∀ c ∈ (words.flatMap (mark :: ·) ++ rest).head?, stop c = true := by
    intro words rest ends c mem
    cases words with
    | nil => exact ends.stops c mem
    | cons word words =>
      cases mem
      exact marks
  induction words generalizing others with
  | nil =>
    cases others with
    | nil => exact ⟨rfl, same⟩
    | cons other others =>
      have marked : mark ∈ rest.head? := by
        rw [← List.nil_append rest, ← List.flatMap_nil (f := (mark :: ·)), same]
        rfl
      exact absurd rfl (ends.other mark marked)
  | cons word words ih =>
    cases others with
    | nil =>
      have marked : mark ∈ last.head? := by
        rw [← List.nil_append last, ← List.flatMap_nil (f := (mark :: ·)), ← same]
        rfl
      exact absurd rfl (ends'.other mark marked)
    | cons other others =>
      rw [List.flatMap_cons, List.flatMap_cons, List.append_assoc, List.append_assoc] at same
      obtain ⟨rfl, after⟩ := Text.front_unique (plain word (List.mem_cons_self ..))
        (plain' other (List.mem_cons_self ..)) (stopped words ends) (stopped others ends')
        (List.cons.inj same).2
      obtain ⟨rfl, tails⟩ := ih (fun word mem => plain word (List.mem_cons_of_mem _ mem))
        (fun word mem => plain' word (List.mem_cons_of_mem _ mem)) after
      exact ⟨rfl, tails⟩

theorem unescape_afterDot {cs rest : List Char} (point : afterDot? cs = some rest) :
    unescape cs = String.utf8EncodeChar '.' ++ unescape rest := by
  unfold afterDot? at point
  split at point
  · cases point
    exact unescape_cons (by decide) _
  · split at point
    · rename_i e _ either
      cases point
      rcases (by simpa using either : e = 'e' ∨ e = 'E') with rfl | rfl <;> rfl
    · cases point
  · cases point

-- A segment that has been escaped is read as a point or two only if it was that before.
theorem not_isDot {reserved : Char → Bool} (percent : reserved '%' = true) {cs : List Char}
    (other : cs ≠ ['.']) : isDot (escape reserved cs) = false := by
  rw [isDot, decide_eq_false_iff_not]
  intro point
  apply other
  apply utf8_injective
  rw [← unescape_escape percent, unescape_afterDot point]
  rfl

theorem not_isDoubleDot {reserved : Char → Bool} (percent : reserved '%' = true) {cs : List Char}
    (other : cs ≠ ['.', '.']) : isDoubleDot (escape reserved cs) = false := by
  rw [isDoubleDot, decide_eq_false_iff_not]
  intro points
  obtain ⟨rest, first, second⟩ := Option.bind_eq_some_iff.mp points
  apply other
  apply utf8_injective
  rw [← unescape_escape percent, unescape_afterDot first, unescape_afterDot second]
  rfl

-- A text that becomes a segment of its own and is read back from it.
structure Placeable (text : String) : Prop where
  level : text ≠ "."
  up : text ≠ ".."
  read : ∀ c ∈ text.toList, isIgnored c = false

theorem placeable_iff {text : String} : Placeable text ↔
    text ≠ "." ∧ text ≠ ".." ∧ text.toList.all (!isIgnored ·) = true := by
  rw [List.all_eq_true]
  simp only [Bool.not_eq_true']
  exact ⟨fun h => ⟨h.level, h.up, h.read⟩, fun ⟨level, up, read⟩ => ⟨level, up, read⟩⟩

instance (text : String) : Decidable (Placeable text) := decidable_of_iff' _ placeable_iff

def segment (text : String) : List Char := escape inSpecialSegment text.toList

theorem push_placeable {text : String} (placeable : Placeable text) (segments : List (List Char)) :
    push .web segments text = (if segments = [[]] then [] else segments) ++ [segment text] := by
  have whole : kept text.toList = text.toList :=
    List.filter_eq_self.mpr fun c mem => by rw [placeable.read c mem]; rfl
  have level : isDot (escape inSpecialSegment text.toList) = false :=
    not_isDot (by decide) fun same => placeable.level (String.toList_inj.mp same)
  have up : isDoubleDot (escape inSpecialSegment text.toList) = false :=
    not_isDoubleDot (by decide) fun same => placeable.up (String.toList_inj.mp same)
  have special : Family.isSpecial .web = true := rfl
  have other : ¬(text = "." ∨ text = "..") := not_or.mpr ⟨placeable.level, placeable.up⟩
  rw [push, if_neg other]
  simp [special, descend, Descent.add, Descent.finish, whole, level, up, segment]

theorem segment_injective {text other : String} (same : segment text = segment other) :
    text = other := String.toList_inj.mp (escape_injective (by decide) same)

-- Below a path with something in it, every text has a segment of its own.
theorem extend_placeable {texts : List String} (placeable : ∀ text ∈ texts, Placeable text)
    {segments : List (List Char)} (below : ∃ above ∈ segments, above ≠ []) :
    extend .web segments texts = segments ++ texts.map segment := by
  induction texts generalizing segments with
  | nil => exact (List.append_nil _).symm
  | cons text texts ih =>
    obtain ⟨above, mem, filled⟩ := below
    have other : segments ≠ [[]] := by
      rintro rfl
      exact filled (List.mem_singleton.mp mem)
    rw [extend, List.foldl_cons, push_placeable (placeable text (List.mem_cons_self ..)),
      if_neg other, ← extend, ih (fun text mem => placeable text (List.mem_cons_of_mem _ mem))
        ⟨above, List.mem_append_left _ mem, filled⟩, List.append_assoc]
    rfl

def pairText (pair : String × String) : List Char :=
  (formText pair.1 ++ "=" ++ formText pair.2).toList

-- What stands in a query before the pairs that are added to it.
def opened : Option (List Char) → List Char
  | none | some [] => []
  | some query => query ++ ['&']

theorem withPair_eq (u : Url) (pair : String × String) :
    u.withPair pair.1 pair.2 = { u with query := some (opened u.query ++ pairText pair) } := by
  obtain ⟨scheme, authority, path, query, fragment⟩ := u
  rcases query with - | - | ⟨c, query⟩
  · simp only [withPair, opened, pairText, List.nil_append]
  · simp only [withPair, opened, pairText, List.nil_append]
  · simp only [withPair, opened, pairText, List.append_assoc, List.singleton_append]

theorem pairText_ne_nil (pair : String × String) : pairText pair ≠ [] := by
  rw [pairText, String.toList_append, String.toList_append]
  exact List.append_ne_nil_of_left_ne_nil (List.append_ne_nil_of_right_ne_nil _ (by decide)) _

theorem opened_append (query : List Char) (pair : String × String) :
    opened (some (query ++ pairText pair)) = query ++ pairText pair ++ ['&'] := by
  have filled : query ++ pairText pair ≠ [] :=
    List.append_ne_nil_of_right_ne_nil _ (pairText_ne_nil pair)
  obtain ⟨c, rest, whole⟩ := List.exists_cons_of_ne_nil filled
  rw [whole]
  rfl

theorem withPairs_eq (u : Url) (first : String × String) (more : List (String × String)) :
    (first :: more).foldl (fun u pair => u.withPair pair.1 pair.2) u =
      { u with query := some (opened u.query ++
          (pairText first ++ (more.map pairText).flatMap ('&' :: ·))) } := by
  induction more generalizing u first with
  | nil => simp [withPair_eq]
  | cons second more ih =>
    rw [List.foldl_cons, ih, withPair_eq, opened_append]
    simp

-- Neither the mark in a pair nor that between pairs is part of a text that has been written for it.
theorem unmarked_formText {d : Char} (mark : d = '=' ∨ d = '&') (text : String) :
    ∀ c ∈ (formText text).toList, (c == d) = false := by
  intro c mem
  rw [beq_eq_false_iff_ne]
  rintro rfl
  rcases mark with rfl | rfl <;>
    exact not_mem_formText (by decide) (by decide) (by decide) (by decide) _ mem

theorem pairText_injective {pair other : String × String} (same : pairText pair = pairText other) :
    pair = other := by
  obtain ⟨key, value⟩ := pair
  obtain ⟨key', value'⟩ := other
  simp only [pairText, String.toList_append, List.append_assoc] at same
  have marked : ∀ text : List Char, ∀ c ∈ ("=".toList ++ text).head?, (c == '=') = true := by
    rintro text c ⟨⟩
    rfl
  obtain ⟨keys, rest⟩ := Text.front_unique (unmarked_formText (.inl rfl) key)
    (unmarked_formText (.inl rfl) key') (marked _) (marked _) same
  rw [formText_injective (String.toList_inj.mp keys),
    formText_injective (String.toList_inj.mp (List.append_cancel_left rest))]

theorem unmarked_pairText (pair : String × String) : ∀ c ∈ pairText pair, (c == '&') = false := by
  intro c mem
  simp only [pairText, String.toList_append, List.mem_append] at mem
  rcases mem with (key | mark) | value
  · exact unmarked_formText (.inr rfl) _ c key
  · rw [List.mem_singleton.mp mark]
    rfl
  · exact unmarked_formText (.inr rfl) _ c value

theorem unmarked_pairTexts (pairs : List (String × String)) :
    ∀ word ∈ pairs.map pairText, ∀ c ∈ word, (c == '&') = false := by
  intro word mem
  obtain ⟨pair, -, rfl⟩ := List.mem_map.mp mem
  exact unmarked_pairText pair

theorem pairs_unique {pairs others : List (String × String)}
    (same : (pairs.map pairText).flatMap ('&' :: ·) = (others.map pairText).flatMap ('&' :: ·)) :
    pairs = others := by
  have nothing : Ends '&' (· == '&') [] := ⟨nofun, nofun⟩
  have words := (marked_unique (by rfl) (unmarked_pairTexts pairs) (unmarked_pairTexts others)
    nothing nothing (by rw [List.append_nil, List.append_nil]; exact same)).1
  exact (List.map_inj_right fun _ _ => pairText_injective).mp words

-- What is written before the path and after the query does not depend on them.
theorem toList_text (u : Url) (guarded : Bool) : ∃ front back, ∀ segments query,
    ({ u with path := .rooted segments guarded, query := some query } : Url).text.toList =
      front ++ (segmentsText segments ++ ('?' :: query ++ back)) := by
  refine ⟨(u.scheme ++ ":" ++ ((u.authority.map fun a => "//" ++ a.text).getD "") ++
    (Path.rooted [] guarded).guard).toList,
    ((u.fragment.map fun f => "#" ++ String.ofList f).getD "").toList, fun segments query => ?_⟩
  have guard : (Path.rooted segments guarded).guard = (Path.rooted [] guarded).guard := by
    cases guarded <;> rfl
  simp only [text, guard, pathText, Path.text, Option.map_some, Option.getD_some,
    String.toList_append, String.toList_ofList, List.append_assoc]
  rfl

-- URLs that differ in the segments at the end of the path or in the end of the query are written
-- differently.
theorem text_unique {u : Url} {guarded : Bool} {above : List (List Char)}
    {texts others : List String} {before query query' : List Char}
    (same : ({ u with
        path := .rooted (above ++ texts.map segment) guarded
        query := some (before ++ query) } : Url).text =
      ({ u with
        path := .rooted (above ++ others.map segment) guarded
        query := some (before ++ query') } : Url).text) :
    texts = others ∧ query = query' := by
  let stop (c : Char) : Bool := c == '/' || c == '?'
  have plain : ∀ texts : List String, ∀ word ∈ texts.map segment, ∀ c ∈ word, stop c = false := by
    intro texts word mem c own
    obtain ⟨text, -, rfl⟩ := List.mem_map.mp mem
    rw [Bool.or_eq_false_iff, beq_eq_false_iff_ne, beq_eq_false_iff_ne]
    constructor
    · rintro rfl
      exact not_mem_escape (by decide) (by decide) (by decide) _ own
    · rintro rfl
      exact not_mem_escape (by decide) (by decide) (by decide) _ own
  have ends : ∀ rest, Ends '/' stop ('?' :: rest) := by
    intro rest
    constructor
    · rintro c ⟨⟩
      decide
    · rintro c ⟨⟩
      rfl
  obtain ⟨front, back, written⟩ := toList_text u guarded
  have texts' := congrArg String.toList same
  rw [written, written, segmentsText, segmentsText, List.flatMap_append, List.flatMap_append,
    List.append_assoc, List.append_assoc] at texts'
  have paths := List.append_cancel_left (List.append_cancel_left texts')
  obtain ⟨words, queries⟩ :=
    marked_unique (by rfl) (plain texts) (plain others) (ends _) (ends _) paths
  refine ⟨(List.map_inj_right fun _ _ => segment_injective).mp words, ?_⟩
  exact List.append_cancel_left (List.append_cancel_right (List.cons.inj queries).2)

end Reconcile.Url
