import Critique.Proofs.Pattern.Count
import Critique.Proofs.Pattern.Margin
import Critique.Proofs.Text.Lines
import Mathlib.Data.List.Basic

/-!
# Matches as parts of a text

`Matches` says what a pattern matches and nothing of how it is searched for: a part of a text, with
what stands before it and after it. `occursIn_iff_matches`: a pattern occurs in a text if some part
of the text is matched. What is around a line makes no difference to the matches in it.
-/

namespace Critique

open Text (isWord)

/-- The place behind one text and in front of another. -/
def Place.behind (before after : Text) : Place := ⟨before.length, before.reverse, after⟩

namespace Pattern

def Matches : Pattern → (before found after : Text) → Prop
  | .nothing, _, found, _ => found = []
  | .one cls, _, found, _ => ∃ c, found = [c] ∧ cls c = true
  | .many cls, _, found, _ => ∀ c ∈ found, cls c = true
  | .here anchor, before, found, after =>
    found = [] ∧ anchor.holds (.behind before after) = true
  | .seq first second, before, found, after =>
    ∃ start rest, found = start ++ rest ∧ first.Matches before start (rest ++ after) ∧
      second.Matches (before ++ start) rest after
  | .alt left right, before, found, after =>
    left.Matches before found after ∨ right.Matches before found after

end Pattern

variable {before found after : Text} {cls : Char → Bool} {pattern : Pattern}

-- ---------------------------------------------------------------------------
-- Places
-- ---------------------------------------------------------------------------

namespace Place

theorem IsOf.eq_behind {t : Text} {place : Place} (h : place.IsOf t) :
    place = behind place.before.reverse place.after := by
  obtain ⟨index, before, after⟩ := place
  obtain rfl : index = before.length := h.index_eq
  simp [behind]

theorem behind_mem_all (before after : Text) : behind before after ∈ all (before ++ after) := by
  suffices ∀ front, behind (front ++ before) after ∈
      along front.length front.reverse (before ++ after) from this []
  induction before with
  | nil => intro front; cases after <;> simp [behind, along]
  | cons c before ih =>
    intro front
    have hnext := ih (front ++ [c])
    simp only [List.append_assoc, List.singleton_append, List.length_append, List.length_singleton,
      List.reverse_append, List.reverse_singleton] at hnext
    exact List.mem_cons_of_mem _ hnext

theorem mem_all_iff {t : Text} {place : Place} :
    place ∈ all t ↔ ∃ before after, t = before ++ after ∧ place = behind before after := by
  constructor
  · intro h
    have hof := isOf_of_mem_all h
    exact ⟨_, _, hof.split.symm, hof.eq_behind⟩
  · rintro ⟨before, after, rfl, rfl⟩
    exact behind_mem_all before after

end Place

theorem Anchor.wordBoundary_behind (before after : Text) :
    Anchor.wordBoundary.holds (.behind before after) =
      (before.getLast?.any isWord != after.head?.any isWord) := by
  simp [holds, Place.behind]

namespace Pattern

-- ---------------------------------------------------------------------------
-- Ends of matches
-- ---------------------------------------------------------------------------

theorem mem_runEnds_iff {rest : Text} {stop : Place} :
    stop ∈ runEnds cls before.length before.reverse rest ↔
      ∃ found after, rest = found ++ after ∧ (∀ c ∈ found, cls c = true) ∧
        stop = .behind (before ++ found) after := by
  induction rest generalizing before with
  | nil =>
    simp only [runEnds, List.mem_singleton]
    constructor
    · rintro rfl
      exact ⟨[], [], rfl, by simp, by simp [Place.behind]⟩
    · rintro ⟨found, after, hrest, -, rfl⟩
      obtain ⟨rfl, rfl⟩ := List.append_eq_nil_iff.mp hrest.symm
      simp [Place.behind]
  | cons c rest ih =>
    have hnext := @ih (before ++ [c])
    simp only [List.length_append, List.length_singleton, List.reverse_append,
      List.reverse_singleton, List.singleton_append] at hnext
    simp only [runEnds, List.mem_append, List.mem_singleton]
    constructor
    · rintro (h | rfl)
      · split at h
        · next hc =>
          obtain ⟨found, after, rfl, hall, rfl⟩ := hnext.mp h
          exact ⟨c :: found, after, rfl, List.forall_mem_cons.mpr ⟨hc, hall⟩, by simp⟩
        · cases h
      · exact ⟨[], c :: rest, rfl, by simp, by simp [Place.behind]⟩
    · rintro ⟨found, after, hrest, hall, rfl⟩
      cases found with
      | nil =>
        obtain rfl : c :: rest = after := hrest
        exact .inr (by simp [Place.behind])
      | cons d found =>
        obtain ⟨rfl, rfl⟩ := List.cons.inj hrest
        obtain ⟨hc, hall⟩ := List.forall_mem_cons.mp hall
        rw [if_pos hc]
        exact .inl (hnext.mpr ⟨found, after, rfl, hall, by simp⟩)

theorem exists_empty_iff {holds : Text → Text → Prop} {rest : Text} :
    (∃ found after, rest = found ++ after ∧ found = [] ∧ holds found after) ↔ holds [] rest := by
  constructor
  · rintro ⟨_, _, rfl, rfl, h⟩
    exact h
  · exact fun h => ⟨[], rest, rfl, rfl, h⟩

/-- The ends of the matches that start at a place are the places behind what is matched there. -/
theorem mem_ends_iff {rest : Text} {stop : Place} :
    stop ∈ pattern.ends (.behind before rest) ↔
      ∃ found after, rest = found ++ after ∧ pattern.Matches before found after ∧
        stop = .behind (before ++ found) after := by
  induction pattern generalizing before rest stop with
  | nothing =>
    simp only [ends, Matches, exists_empty_iff, List.append_nil, List.mem_singleton]
  | one cls =>
    constructor
    · intro h
      obtain ⟨c, after, hafter, hc, rfl⟩ := of_mem_ends_one h
      exact ⟨[c], after, hafter, ⟨c, rfl, hc⟩, by simp [Place.behind]⟩
    · rintro ⟨_, after, rfl, ⟨c, rfl, hc⟩, rfl⟩
      simp [ends, Place.behind, Place.next?, hc]
  | many cls => exact mem_runEnds_iff
  | here anchor =>
    simp only [ends, Matches, and_assoc, exists_empty_iff, List.append_nil]
    split
    · next h => simp [h]
    · next h => simp [h]
  | seq first second ihf ihs =>
    simp only [ends, List.mem_flatMap, Matches]
    constructor
    · rintro ⟨middle, hf, hs⟩
      obtain ⟨start, after, rfl, hstart, rfl⟩ := ihf.mp hf
      obtain ⟨rest, after, rfl, hrest, rfl⟩ := ihs.mp hs
      exact ⟨start ++ rest, after, by simp, ⟨start, rest, rfl, hstart, hrest⟩, by simp⟩
    · rintro ⟨_, after, rfl, ⟨start, rest, rfl, hstart, hrest⟩, rfl⟩
      refine ⟨_, ihf.mpr ⟨start, rest ++ after, by simp, hstart, rfl⟩, ?_⟩
      exact ihs.mpr ⟨rest, after, rfl, hrest, by simp⟩
  | alt left right ihl ihr =>
    simp only [ends, List.mem_append, ihl, ihr, Matches, or_and_right, and_or_left, exists_or]

/-- A pattern occurs in a text if it matches some part of it. -/
theorem occursIn_iff_matches {t : Text} :
    pattern.occursIn t = true ↔
      ∃ before found after, t = before ++ found ++ after ∧ pattern.Matches before found after := by
  rw [occursIn_iff]
  constructor
  · rintro ⟨place, hp, hne⟩
    obtain ⟨before, rest, rfl, rfl⟩ := Place.mem_all_iff.mp hp
    obtain ⟨stop, hstop⟩ := List.exists_mem_of_ne_nil _ hne
    obtain ⟨found, after, rfl, hm, -⟩ := mem_ends_iff.mp hstop
    exact ⟨before, found, after, (List.append_assoc ..).symm, hm⟩
  · rintro ⟨before, found, after, rfl, hm⟩
    have hstop := mem_ends_iff.mpr ⟨found, after, rfl, hm, rfl⟩
    refine ⟨_, Place.mem_all_iff.mpr ⟨before, found ++ after, ?_, rfl⟩, List.ne_nil_of_mem hstop⟩
    exact List.append_assoc ..

-- ---------------------------------------------------------------------------
-- Ways to write patterns
-- ---------------------------------------------------------------------------

theorem not_matches_seq_one_nil : ¬ (seq (one cls) pattern).Matches before [] after := by
  rintro ⟨_, rest, hnil, ⟨c, rfl, -⟩, -⟩
  cases hnil

theorem matches_seq_one_cons {c : Char} :
    (seq (one cls) pattern).Matches before (c :: found) after ↔
      cls c = true ∧ pattern.Matches (before ++ [c]) found after := by
  constructor
  · rintro ⟨_, rest, hcons, ⟨d, rfl, hd⟩, hrest⟩
    obtain ⟨rfl, rfl⟩ := List.cons.inj hcons
    exact ⟨hd, hrest⟩
  · rintro ⟨hc, hrest⟩
    exact ⟨[c], found, rfl, ⟨c, rfl, hc⟩, hrest⟩

theorem matches_seq_nothing : (seq pattern nothing).Matches before found after ↔
    pattern.Matches before found after := by
  constructor
  · rintro ⟨start, _, rfl, hstart, rfl⟩
    simpa using hstart
  · exact fun h => ⟨found, [], (List.append_nil _).symm, h, rfl⟩

theorem matches_atLeast {n : Nat} : (atLeast n cls).Matches before found after ↔
    n ≤ found.length ∧ ∀ c ∈ found, cls c = true := by
  induction n generalizing before found with
  | zero => simp [atLeast, Matches]
  | succ n ih =>
    cases found with
    | nil => simp [atLeast, not_matches_seq_one_nil]
    | cons c found => simp [atLeast, matches_seq_one_cons, ih, and_left_comm]

theorem matches_boundary : boundary.Matches before found after ↔
    found = [] ∧ before.getLast?.any isWord ≠ after.head?.any isWord := by
  simp [boundary, Matches, Anchor.wordBoundary_behind]

-- ---------------------------------------------------------------------------
-- Matches in a line
-- ---------------------------------------------------------------------------

/-- What is around a text does not make or break a match in it, if no word goes on there. -/
theorem matches_within (hfloats : pattern.floats = true) {front back : Text}
    (hf : front.getLast?.any isWord = false) (hb : back.head?.any isWord = false) :
    pattern.Matches (front ++ before) found (after ++ back) ↔
      pattern.Matches before found after := by
  have hbefore (before : Text) :
      (front ++ before).getLast?.any isWord = before.getLast?.any isWord := by
    rw [List.getLast?_append]
    cases before.getLast? <;> simp [hf]
  have hafter (after : Text) : (after ++ back).head?.any isWord = after.head?.any isWord := by
    rw [List.head?_append]
    cases after.head? <;> simp [hb]
  induction pattern generalizing before found after with
  | nothing | one | many => rfl
  | here anchor =>
    cases anchor with
    | textStart | lineStart => cases hfloats
    | wordBoundary =>
      simp only [Matches, Anchor.wordBoundary_behind, hbefore, hafter]
  | seq first second ihf ihs =>
    obtain ⟨hfirst, hsecond⟩ := Bool.and_eq_true _ _ |>.mp hfloats
    simp only [Matches, List.append_assoc, ihs hsecond]
    simp only [← List.append_assoc, ihf hfirst]
  | alt left right ihl ihr =>
    obtain ⟨hleft, hright⟩ := Bool.and_eq_true _ _ |>.mp hfloats
    simp only [Matches, ihl hleft, ihr hright]

theorem isWord_getLast?_unlines (above : List Text) :
    (Text.unlines above).getLast?.any isWord = false := by
  rcases List.eq_nil_or_concat' above with rfl | ⟨above, p, rfl⟩
  · rfl
  · simp [Text.unlines, Text.line, isWord_feed]

theorem isWord_head? {back : Text} (hback : ∀ c ∈ back.head?, c = '\n') :
    back.head?.any isWord = false := by
  cases back with
  | nil => rfl
  | cons c back =>
    obtain rfl : c = '\n' := hback c rfl
    exact isWord_feed

/-- What matches in a piece of a text is what matches in the text without a line feed. -/
theorem exists_piece_iff (hfloats : pattern.floats = true) {t : Text} :
    (∃ piece ∈ Text.pieces t, pattern.occursIn piece = true) ↔
      ∃ before found after, t = before ++ found ++ after ∧ pattern.Matches before found after ∧
        '\n' ∉ found := by
  constructor
  · rintro ⟨piece, hp, ho⟩
    have hfeed := Text.not_mem_of_mem_pieces hp
    obtain ⟨above, back, rfl, hback⟩ := Text.exists_of_mem_pieces hp
    obtain ⟨before, found, after, rfl, hm⟩ := occursIn_iff_matches.mp ho
    refine ⟨Text.unlines above ++ before, found, after ++ back, by simp, ?_, ?_⟩
    · exact (matches_within hfloats (isWord_getLast?_unlines above)
        (isWord_head? hback)).mpr hm
    · intro hf
      simp [hf] at hfeed
  · rintro ⟨before, found, after, rfl, hm, hfound⟩
    obtain ⟨above, last, habove, hlast, rfl⟩ := Text.exists_unlines before
    obtain ⟨rest, back, rfl, hrest, hback⟩ := Text.exists_restOfLine after
    have hpiece : '\n' ∉ last ++ found ++ rest :=
      List.not_mem_append (List.not_mem_append hlast hfound) hrest
    refine ⟨last ++ found ++ rest, ?_, occursIn_iff_matches.mpr ⟨last, found, rest, rfl, ?_⟩⟩
    · simpa using Text.mem_pieces habove hpiece hback
    · exact (matches_within hfloats (isWord_getLast?_unlines above)
        (isWord_head? hback)).mp hm

end Pattern

end Critique
