import Critique.Catalog.Structure
import Critique.Proofs.Pattern.Matches
import Mathlib.Data.List.Basic

/-!
# Magic numbers

A literal is a whole run of three decimal digits or more that belongs to no word and stands behind
no point and no bracket. `magicNumbers_verdict`: the rule finds the literals that stand behind some
character, the whole parts of fractions among them.
-/

namespace Critique

open Text (isDecimal isWord)

-- ---------------------------------------------------------------------------
-- Decimal digits
-- ---------------------------------------------------------------------------

namespace Text

def Ranges.toList : Ranges → List (Nat × Nat)
  | .empty => []
  | .node below low high above => below.toList ++ (low, high) :: above.toList

theorem Ranges.exists_of_holds {ranges : Ranges} {n : Nat} (h : ranges.holds n = true) :
    ∃ range ∈ ranges.toList, range.1 ≤ n ∧ n ≤ range.2 := by
  induction ranges with
  | empty => cases h
  | node below low high above ihb iha =>
    simp only [holds] at h
    simp only [toList, List.mem_append, List.mem_cons]
    split at h
    · obtain ⟨range, hm, hn⟩ := ihb h
      exact ⟨range, .inl hm, hn⟩
    · split at h
      · obtain ⟨range, hm, hn⟩ := iha h
        exact ⟨range, .inr (.inr hm), hn⟩
      · exact ⟨(low, high), .inr (.inl rfl), by omega, by omega⟩

theorem decimals_are_words : ∀ range ∈ decimals.toList,
    ∀ n ∈ List.range' range.1 (range.2 + 1 - range.1), wordCharacters.holds n = true := by
  decide +kernel

theorem isWord_of_isDecimal {c : Char} (h : isDecimal c = true) : isWord c = true := by
  unfold isDecimal at h
  unfold isWord
  split at h
  · next hsmall => simp [hsmall, Char.isAlphanum, h]
  · next hlarge =>
    obtain ⟨range, hm, hlow, hhigh⟩ := Ranges.exists_of_holds h
    rw [if_neg hlarge]
    exact decimals_are_words range hm _ (List.mem_range'_1.mpr (by omega))

end Text

-- ---------------------------------------------------------------------------
-- Literals
-- ---------------------------------------------------------------------------

namespace Catalog

/-- A number as it stands between two parts of a text. -/
structure Literal (code before digits after : Text) : Prop where
  split : code = before ++ digits ++ after
  long : 3 ≤ digits.length
  decimal : ∀ c ∈ digits, isDecimal c = true
  maximal : before.getLast?.any isDecimal = false ∧ after.head?.any isDecimal = false
  whole : before.getLast?.any isWord = false ∧ after.head?.any isWord = false
  noFraction : before.getLast? ≠ some '.'
  noIndex : before.getLast? ≠ some '['

/-- Whether a point and a digit are next, so that what is in front of them is the whole part of a
fraction. -/
def startsFraction : Text → Bool
  | '.' :: c :: _ => isDecimal c
  | _ => false

/-- Some literal is no part of a fraction: a number that ought to have a name. -/
def HasNumber (code : Text) : Prop :=
  ∃ before digits after, Literal code before digits after ∧ startsFraction after = false

/-- Some literal stands behind a character. -/
def HasInnerLiteral (code : Text) : Prop :=
  ∃ before digits after, Literal code before digits after ∧ before ≠ []

variable {code before digits after : Text}

instance : Decidable (Literal code before digits after) :=
  decidable_of_iff
    (code = before ++ digits ++ after ∧ 3 ≤ digits.length ∧ digits.all isDecimal = true ∧
      (before.getLast?.any isDecimal = false ∧ after.head?.any isDecimal = false) ∧
      (before.getLast?.any isWord = false ∧ after.head?.any isWord = false) ∧
      before.getLast? ≠ some '.' ∧ before.getLast? ≠ some '[')
    ⟨fun ⟨hs, hl, hd, hm, hw, hf, hi⟩ => ⟨hs, hl, List.all_eq_true.mp hd, hm, hw, hf, hi⟩,
      fun h => ⟨h.split, h.long, List.all_eq_true.mpr h.decimal, h.maximal, h.whole, h.noFraction,
        h.noIndex⟩⟩

theorem hasNumber_iff : HasNumber code ↔
    ∃ i < code.length + 1, ∃ j < code.length + 1,
      Literal code (code.take i) ((code.drop i).take j) ((code.drop i).drop j) ∧
        startsFraction ((code.drop i).drop j) = false := by
  constructor
  · rintro ⟨before, digits, after, hl, hf⟩
    have hcode := hl.split
    rw [List.append_assoc] at hcode
    have hlength := congrArg List.length hcode
    rw [List.length_append, List.length_append] at hlength
    refine ⟨before.length, by omega, digits.length, by omega, ?_⟩
    have hbefore : code.take before.length = before := by rw [hcode, List.take_left]
    have hrest : code.drop before.length = digits ++ after := by rw [hcode, List.drop_left]
    rw [hbefore, hrest, List.take_left, List.drop_left]
    exact ⟨hl, hf⟩
  · rintro ⟨i, -, j, -, h⟩
    exact ⟨_, _, _, h⟩

instance : Decidable (HasNumber code) := decidable_of_iff _ hasNumber_iff.symm

theorem any_isDecimal_eq_false {o : Option Char} (h : o.any isWord = false) :
    o.any isDecimal = false := by
  cases o with
  | none => rfl
  | some c =>
    rw [Option.any_some, Bool.eq_false_iff] at h ⊢
    exact fun hc => h (Text.isWord_of_isDecimal hc)

theorem getLast?_any_isWord (hne : digits ≠ []) (h : ∀ c ∈ digits, isDecimal c = true) :
    (before ++ digits).getLast?.any isWord = true := by
  have hlast := List.getLast?_eq_some_getLast hne
  rw [List.getLast?_append, hlast, Option.some_or, Option.any_some]
  exact Text.isWord_of_isDecimal (h _ (List.getLast_mem hne))

theorem matches_magicNumbersPattern {c : Char} :
    magicNumbersPattern.Matches before (c :: digits) after ↔
      Literal (before ++ c :: digits ++ after) (before ++ [c]) digits after := by
  have hpattern : magicNumbersPattern = .seq (.one fun c => !(isWord c || c == '.' || c == '['))
      (.seq (.atLeast 3 isDecimal) (.seq .boundary .nothing)) := rfl
  simp only [hpattern, Pattern.matches_seq_one_cons]
  constructor
  · rintro ⟨hc, start, rest, rfl, hstart, hrest⟩
    obtain ⟨hlong, hdecimal⟩ := Pattern.matches_atLeast.mp hstart
    obtain ⟨rfl, hb⟩ := Pattern.matches_boundary.mp (Pattern.matches_seq_nothing.mp hrest)
    simp only [Bool.not_eq_true', Bool.or_eq_false_iff, beq_eq_false_iff_ne] at hc
    obtain ⟨⟨hword, hpoint⟩, hindex⟩ := hc
    have hne : start ≠ [] := List.ne_nil_of_length_pos (by omega)
    rw [getLast?_any_isWord hne hdecimal, ne_comm, ne_eq, Bool.not_eq_true] at hb
    have hbefore : (before ++ [c]).getLast?.any isWord = false := by simpa using hword
    exact ⟨by simp, by simpa using hlong, by simpa using hdecimal,
      ⟨any_isDecimal_eq_false hbefore, any_isDecimal_eq_false hb⟩, ⟨hbefore, hb⟩,
      by simpa using hpoint, by simpa using hindex⟩
  · intro h
    have hlong := h.long
    have hne : digits ≠ [] := List.ne_nil_of_length_pos (by omega)
    have hword : isWord c = false := by simpa using h.whole.1
    have hpoint : c ≠ '.' := by simpa using h.noFraction
    have hindex : c ≠ '[' := by simpa using h.noIndex
    refine ⟨by simp [hword, hpoint, hindex], digits, [], (List.append_nil _).symm,
      Pattern.matches_atLeast.mpr ⟨h.long, h.decimal⟩, Pattern.matches_seq_nothing.mpr ?_⟩
    rw [Pattern.matches_boundary, getLast?_any_isWord hne h.decimal]
    exact ⟨rfl, by simp [h.whole.2]⟩

theorem magicNumbersPattern_occursIn_iff :
    magicNumbersPattern.occursIn code = true ↔ HasInnerLiteral code := by
  rw [Pattern.occursIn_iff_matches]
  constructor
  · rintro ⟨before, found, after, rfl, hm⟩
    cases found with
    | nil => exact absurd hm Pattern.not_matches_seq_one_nil
    | cons c digits => exact ⟨_, _, _, matches_magicNumbersPattern.mp hm, by simp⟩
  · rintro ⟨before, digits, after, hl, hne⟩
    obtain ⟨before, c, rfl⟩ := List.eq_nil_or_concat' before |>.resolve_left hne
    have hcode : code = before ++ c :: digits ++ after := by simpa using hl.split
    exact ⟨before, c :: digits, after, hcode, matches_magicNumbersPattern.mpr (hcode ▸ hl)⟩

/-- The rule decides whether some literal stands behind a character. That says whether the text has
a number, unless its only literal is a number at its start, or all its literals belong to fractions
and one of them stands behind a character. -/
theorem magicNumbers_verdict (code : Text) (metrics : Metrics) :
    ∃ found, magicNumbers.matcher.verdict code metrics = some found ∧
      (found = true ↔ HasInnerLiteral code) ∧
      ((found = true ↔ HasNumber code) ↔
        ¬ (HasNumber code ∧ ∀ before digits after, Literal code before digits after → before = []) ∧
        ¬ (HasInnerLiteral code ∧ ∀ before digits after, Literal code before digits after →
          startsFraction after = true)) := by
  refine ⟨magicNumbersPattern.occursIn code, rfl, magicNumbersPattern_occursIn_iff, ?_⟩
  have hinner : (∀ before digits after, Literal code before digits after → before = []) ↔
      ¬ HasInnerLiteral code := by
    simp only [HasInnerLiteral, not_exists, not_and, not_not]
  have hnumber : (∀ before digits after, Literal code before digits after →
      startsFraction after = true) ↔ ¬ HasNumber code := by
    simp only [HasNumber, not_exists, not_and, Bool.not_eq_false]
  rw [magicNumbersPattern_occursIn_iff, hinner, hnumber]
  tauto

/-- A number at the start is overlooked, and the whole part of a fraction is taken for one. -/
theorem leading_number_overlooked :
    HasNumber "404" ∧ magicNumbers.matcher.verdict "404" (.ofCode "404") = some false ∧
      ¬ HasNumber "x = 123.45" ∧
      magicNumbers.matcher.verdict "x = 123.45" (.ofCode "x = 123.45") = some true := by
  decide +kernel

end Catalog

end Critique
