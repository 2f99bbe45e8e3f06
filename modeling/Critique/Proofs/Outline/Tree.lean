import Critique.Proofs.Layout.Spacing
import Critique.Proofs.Layout.Tree

/-!
# The outline and the tree of its lines

The body of a header is read forward, up to the first line that is not indented deeper. These are
the lines that have the header above them in the tree of indentation. `outline_iff_tree`: nested
headers are pairs of a line and an ancestor, and a function calls itself on its own line or on one
that it is an ancestor of.
-/

namespace Critique.Outline

open Layout (Ancestor Encloses)
open Text (blank)

/-- How far a line is indented, unless it is blank. -/
def widthOf (lines : List Text) (i : Nat) : Option Nat :=
  (lines[i]?).bind fun line => if blank line then none else some (Layout.indent line)

variable {lines : List Text} {line : Text} {header : Pattern} {i : Nat}

-- ---------------------------------------------------------------------------
-- Scans over the lines that follow
-- ---------------------------------------------------------------------------

theorem someLine_iff {relation : Text → List Text → Bool} : someLine relation lines = true ↔
    ∃ (i : Nat) (line : Text), lines[i]? = some line ∧
      relation line (lines.drop (i + 1)) = true := by
  induction lines with
  | nil => simp [someLine]
  | cons first lines ih =>
    rw [someLine, Bool.or_eq_true, ih]
    constructor
    · rintro (h | ⟨i, line, hline, h⟩)
      · exact ⟨0, first, rfl, h⟩
      · exact ⟨i + 1, line, hline, h⟩
    · rintro ⟨i, line, hline, h⟩
      cases i with
      | zero =>
        obtain rfl : first = line := by simpa using hline
        exact .inl h
      | succ i => exact .inr ⟨i, line, hline, h⟩

/-- The lines up to a position that are not blank are indented deeper than a header. -/
def Deeper (outer : Nat) (lines : List Text) (j : Nat) : Prop :=
  ∀ k ≤ j, ∀ u ∈ widthOf lines k, outer < u

theorem deeper_zero {outer : Nat} :
    Deeper outer lines 0 ↔ ∀ u ∈ widthOf lines 0, outer < u := by
  simp [Deeper]

theorem deeper_succ {outer j : Nat} {first : Text} : Deeper outer (first :: lines) (j + 1) ↔
    Deeper outer (first :: lines) 0 ∧ Deeper outer lines j := by
  constructor
  · exact fun h => ⟨fun k hk => h k (Nat.le_trans hk (Nat.zero_le _)),
      fun k hk => h (k + 1) (Nat.succ_le_succ hk)⟩
  · rintro ⟨h0, h⟩ k hk
    cases k with
    | zero => exact h0 0 (Nat.le_refl 0)
    | succ k => exact h k (Nat.le_of_succ_le_succ hk)

/-- A line is in the body of a header if it is not blank and, like all before it, deeper. -/
theorem mem_body_iff {outer : Nat} {following : List Text} {inner : Text} :
    inner ∈ Layout.body outer following ↔ ∃ j : Nat, following[j]? = some inner ∧
      blank inner = false ∧ Deeper outer following j := by
  induction following with
  | nil => simp [Layout.body]
  | cons first following ih =>
    rw [Layout.body]
    cases hb : blank first with
    | true =>
      have h0 : Deeper outer (first :: following) 0 := by simp [deeper_zero, widthOf, hb]
      rw [if_pos rfl, ih]
      constructor
      · rintro ⟨j, hj, hi, h⟩
        exact ⟨j + 1, hj, hi, deeper_succ.mpr ⟨h0, h⟩⟩
      · rintro ⟨j, hj, hi, h⟩
        cases j with
        | zero => simp_all
        | succ j => exact ⟨j, hj, hi, (deeper_succ.mp h).2⟩
    | false =>
      have h0 : Deeper outer (first :: following) 0 ↔ outer < Layout.indent first := by
        simp [deeper_zero, widthOf, hb]
      rw [if_neg Bool.false_ne_true]
      split
      · next hdeeper =>
        rw [List.mem_cons, ih]
        constructor
        · rintro (rfl | ⟨j, hj, hi, h⟩)
          · exact ⟨0, rfl, hb, h0.mpr hdeeper⟩
          · exact ⟨j + 1, hj, hi, deeper_succ.mpr ⟨h0.mpr hdeeper, h⟩⟩
        · rintro ⟨j, hj, hi, h⟩
          cases j with
          | zero => exact .inl (by simpa using hj.symm)
          | succ j => exact .inr ⟨j, hj, hi, (deeper_succ.mp h).2⟩
      · next hshallow =>
        simp only [List.not_mem_nil, false_iff]
        rintro ⟨j, -, -, h⟩
        exact hshallow (h0.mp fun k hk => h k (Nat.le_trans hk (Nat.zero_le j)))

-- ---------------------------------------------------------------------------
-- Bodies and ancestors
-- ---------------------------------------------------------------------------

theorem widthOf_drop (n k : Nat) : widthOf (lines.drop n) k = widthOf lines (n + k) := by
  simp [widthOf]

theorem encloses_iff {j : Nat} {inner : Text} (hline : lines[i]? = some line)
    (hb : blank line = false) (hinner : lines[i + 1 + j]? = some inner) :
    Encloses (widthOf lines) i (i + 1 + j) ↔
      blank inner = false ∧ Deeper (Layout.indent line) (lines.drop (i + 1)) j := by
  have hwidth : widthOf lines i = some (Layout.indent line) := by simp [widthOf, hline, hb]
  have hinside : (widthOf lines (i + 1 + j)).isSome ↔ blank inner = false := by
    simp [widthOf, hinner]
  simp only [Encloses, hinside, hwidth, Option.mem_some_iff, exists_eq_left']
  constructor
  · rintro ⟨-, hi, h⟩
    refine ⟨hi, fun k hk u hu => h (i + 1 + k) (by omega) (by omega) u ?_⟩
    rwa [← widthOf_drop]
  · rintro ⟨hi, h⟩
    refine ⟨by omega, hi, fun k hk hik u hu => h (k - (i + 1)) (by omega) u ?_⟩
    rwa [widthOf_drop, Nat.add_sub_cancel' hik]

/-- The body of a header holds what the header is an ancestor of. -/
theorem bodyHas_iff {property : Text → Bool} (hline : lines[i]? = some line)
    (hb : blank line = false) : bodyHas property line (lines.drop (i + 1)) = true ↔
      ∃ (j : Nat) (inner : Text), Ancestor (widthOf lines) i j ∧ lines[j]? = some inner ∧
        property inner = true := by
  simp only [bodyHas, List.any_eq_true, mem_body_iff, List.getElem?_drop, Layout.ancestor_iff]
  constructor
  · rintro ⟨inner, ⟨j, hinner, h⟩, hp⟩
    exact ⟨i + 1 + j, inner, (encloses_iff hline hb hinner).mpr h, hinner, hp⟩
  · rintro ⟨j, inner, h, hinner, hp⟩
    obtain ⟨j, rfl⟩ := Nat.exists_eq_add_of_le h.1
    exact ⟨inner, ⟨j, hinner, (encloses_iff hline hb hinner).mp h⟩, hp⟩

-- ---------------------------------------------------------------------------
-- The outline
-- ---------------------------------------------------------------------------

/-- A header that blanks do not make is on no blank line. -/
theorem not_blank_of_occursIn (hnil : header.occursIn [] = false)
    (hh : ∀ {trail}, blank trail = true → ∀ l, header.occursIn (l ++ trail) = header.occursIn l)
    (h : header.occursIn line = true) : blank line = false := by
  cases hb : blank line with
  | false => rfl
  | true =>
    have hl : header.occursIn line = header.occursIn [] := hh hb []
    simp [hl, hnil] at h

theorem hasNested_iff (hnil : header.occursIn [] = false)
    (hh : ∀ {trail}, blank trail = true → ∀ l, header.occursIn (l ++ trail) = header.occursIn l)
    (code : Text) :
    hasNested header code = true ↔ ∃ i j, Ancestor (widthOf (Text.lines code)) i j ∧
      (∃ outer, (Text.lines code)[i]? = some outer ∧ header.occursIn outer = true) ∧
      ∃ inner, (Text.lines code)[j]? = some inner ∧ header.occursIn inner = true := by
  simp only [hasNested, someLine_iff, holdsAnother, Bool.and_eq_true]
  constructor
  · rintro ⟨i, outer, hline, ho, hbody⟩
    have hb := not_blank_of_occursIn hnil hh ho
    obtain ⟨j, inner, ha, hinner, hi⟩ := (bodyHas_iff hline hb).mp hbody
    exact ⟨i, j, ha, ⟨outer, hline, ho⟩, inner, hinner, hi⟩
  · rintro ⟨i, j, ha, ⟨outer, hline, ho⟩, inner, hinner, hi⟩
    have hb := not_blank_of_occursIn hnil hh ho
    exact ⟨i, outer, hline, ho, (bodyHas_iff hline hb).mpr ⟨j, inner, ha, hinner, hi⟩⟩

theorem hasRecursion_iff (code : Text) :
    hasRecursion code = true ↔ ∃ (i : Nat) (line name rest : Text),
      (Text.lines code)[i]? = some line ∧ definition? line = some (name, rest) ∧
      (calls name rest = true ∨ ∃ (j : Nat) (inner : Text),
        Ancestor (widthOf (Text.lines code)) i j ∧ (Text.lines code)[j]? = some inner ∧
        calls name inner = true) := by
  have hblank : ∀ {line : Text} {found}, definition? line = some found → blank line = false := by
    intro line found h
    cases hb : blank line with
    | false => rfl
    | true => simp [definition?_blank hb] at h
  simp only [hasRecursion, someLine_iff]
  constructor
  · rintro ⟨i, line, hline, h⟩
    unfold callsItself at h
    split at h
    · next name rest hd =>
      rw [Bool.or_eq_true, bodyHas_iff hline (hblank hd)] at h
      exact ⟨i, line, name, rest, hline, hd, h⟩
    · cases h
  · rintro ⟨i, line, name, rest, hline, hd, h⟩
    refine ⟨i, line, hline, ?_⟩
    simp only [callsItself, hd, Bool.or_eq_true]
    rwa [bodyHas_iff hline (hblank hd)]

/-- Headers are nested if one is an ancestor of the other in the tree of indentation. A function
calls itself if it is called behind its parenthesis or on a line that its own is an ancestor of. -/
theorem outline_iff_tree (code : Text) :
    let lines := Text.lines code
    let holds (i : Nat) (property : Text → Bool) : Prop :=
      ∃ line, lines[i]? = some line ∧ property line = true
    (hasNestedLoops code = true ↔ ∃ i j, Ancestor (widthOf lines) i j ∧
      holds i loopHeader.occursIn ∧ holds j loopHeader.occursIn) ∧
    (hasNestedConditionals code = true ↔ ∃ i j, Ancestor (widthOf lines) i j ∧
      holds i conditionalHeader.occursIn ∧ holds j conditionalHeader.occursIn) ∧
    (hasRecursion code = true ↔ ∃ (i : Nat) (line name rest : Text),
      lines[i]? = some line ∧ definition? line = some (name, rest) ∧
      (calls name rest = true ∨ ∃ j, Ancestor (widthOf lines) i j ∧ holds j (calls name))) := by
  intro lines holds
  refine ⟨hasNested_iff (by decide) loopHeader_append_blank code,
    hasNested_iff (by decide) conditionalHeader_append_blank code, ?_⟩
  simp only [hasRecursion_iff, holds, lines, exists_and_left]

end Critique.Outline
