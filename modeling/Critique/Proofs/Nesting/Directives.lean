import Critique.Proofs.Nesting.Comments
import Critique.Proofs.Nesting.Depth

/-!
# Lines behind a hash

A hash and a blank start a comment, unless the word behind them names a directive. Such a line is
code: it closes the blocks that are not less indented, and its braces count. `depth_hashed_iff`: a
line behind a hash changes no nesting depth just where its first word names no directive.
-/

namespace Critique

variable {t : Text}

namespace Scan

/-- A line that starts with a hash and a blank. -/
def hashed (t : Text) : Text := "# ".toList ++ t

/-- The first word of a text is the name of a directive. -/
def namesDirective (t : Text) : Bool :=
  directives.contains ((Text.trimStart t).takeWhile Char.isAlpha)

theorem feed_not_mem_hashed (h : '\n' ∉ t) : '\n' ∉ hashed t := List.not_mem_append (by decide) h

theorem isDirective_hashed (t : Text) : isDirective (hashed t) = namesDirective t := rfl

/-- Nothing is visible of a comment behind a hash. -/
theorem line_hashed (h : namesDirective t = false) {margin : Text} (hm : Text.blank margin = true) :
    line false (margin ++ hashed t) = (margin, false) := by
  rw [line, if_neg Bool.false_ne_true, isDirective_margin hm, isDirective_hashed, h,
    visible_code_append hm]
  show (margin ++ [], false) = _
  rw [List.append_nil]

/-- The hash of a directive is visible. -/
theorem line_directive (h : namesDirective t = true) :
    ∃ seen, (line false (hashed t)).1 = '#' :: seen := by
  rw [line, isDirective_hashed, h]
  exact ⟨_, rfl⟩

end Scan

namespace Nesting

open Scan (hashed namesDirective)
open Text (Fresh Ends Inserted Spacing essential pieces)

-- ---------------------------------------------------------------------------
-- The line of a directive
-- ---------------------------------------------------------------------------

/-- What is visible of a line behind a hash. -/
def directiveCode (t : Text) : Text := Text.trim (Scan.line false (hashed t)).1

theorem directiveCode_eq (h : namesDirective t = true) : ∃ rest, directiveCode t = '#' :: rest := by
  obtain ⟨seen, hseen⟩ := Scan.line_directive h
  exact ⟨_, by rw [directiveCode, hseen, Text.trim_cons (by decide)]⟩

theorem opensBlock_hash (rest : Text) : opensBlock ('#' :: rest) = false := by
  have hword : Text.isAlphanumeric '#' = false := by decide
  have hkeyword : [] ∉ blockKeywords := by decide
  simp [opensBlock, hword, hkeyword]

/-- The counts behind the braces of a directive. -/
def directiveCounts (t : Text) (counts : Nat × Nat) : Nat × Nat :=
  (directiveCode t).foldl (brace 0) counts

/-- A directive that is not indented closes all blocks and opens none but those of its braces. -/
theorem State.next_directive (h : namesDirective t = true) {state : State}
    (hopen : state.inComment = false) :
    state.next (hashed t) =
      let counts := directiveCounts t (state.braces, state.deepest)
      ⟨(Scan.line false (hashed t)).2, counts.1, [], counts.2⟩ := by
  obtain ⟨rest, hcode⟩ := directiveCode_eq h
  have hindent : Layout.indent (hashed t) = 0 := rfl
  have hblocks : state.blocks.dropWhile (0 ≤ ·) = [] :=
    List.dropWhile_eq_nil_iff.mpr fun _ _ => decide_eq_true (Nat.zero_le _)
  have hopens : opensBlock (directiveCode t) = false := hcode ▸ opensBlock_hash rest
  have hempty : (directiveCode t).isEmpty = false := by rw [hcode]; rfl
  rw [next_eq, hopen]
  show (if (directiveCode t).isEmpty then _ else enter _ _ (directiveCode t)) = _
  rw [hempty, if_neg Bool.false_ne_true, enter_eq, hindent]
  simp only [hblocks, hopens, Bool.false_eq_true, if_false, List.length_nil, directiveCounts]

-- ---------------------------------------------------------------------------
-- Depths that a directive changes
-- ---------------------------------------------------------------------------

theorem depth_directive (hfeed : '\n' ∉ t) (h : namesDirective t = true) :
    depth (hashed t) = (directiveCounts t (0, 0)).2 := by
  rw [depth_essential, run_line _ (Scan.feed_not_mem_hashed hfeed),
    State.next_directive h rfl]
  rfl

/-- Where a directive opens no braces, none are open behind it. -/
theorem directiveCounts_flat (h : (directiveCounts t (0, 0)).2 = 0) :
    directiveCounts t (0, 1) = (0, 1) := by
  have hle : (directiveCounts t (0, 0)).1 ≤ (directiveCounts t (0, 0)).2 :=
    (tallies_foldl _).end_le_most
  have hstart : Raises 1 (0, 0) (0, 1) := ⟨rfl, Nat.zero_le _, Nat.le_refl _⟩
  obtain ⟨hbraces, -, hhigh⟩ := hstart.foldl (Nat.zero_le 1) (directiveCode t)
  have hlow := deepest_le_foldl_brace 0 (0, 1) (directiveCode t)
  change (directiveCounts t (0, 1)).1 = (directiveCounts t (0, 0)).1 at hbraces
  change (directiveCounts t (0, 1)).2 ≤ (directiveCounts t (0, 0)).2 + 1 at hhigh
  change 1 ≤ (directiveCounts t (0, 1)).2 at hlow
  exact Prod.ext (by omega) (by omega)

/-- A header, and another one that is indented. -/
def outerHeader : Text := "def f():\n"
def innerHeader : Text := " if a:"

/-- A directive between two headers closes the block that the second is nested in. -/
theorem depth_parted (hfeed : '\n' ∉ t) (h : namesDirective t = true)
    (hflat : (directiveCounts t (0, 0)).2 = 0) :
    depth (outerHeader ++ (hashed t ++ ['\n']) ++ innerHeader) = 1 := by
  have hfresh : Fresh outerHeader := .inr (by decide)
  have hends : Ends ['\n'] := .inl rfl
  have hfront : run .start (essential (pieces outerHeader)) = ⟨false, 0, [0], 1⟩ := by decide
  rw [depth_essential, List.append_assoc, List.append_assoc, hfresh.essential_append,
    hends.essential_append, run_append, run_append, hfront,
    run_line _ (Scan.feed_not_mem_hashed hfeed), State.next_directive h rfl]
  simp only [directiveCounts_flat hflat]
  -- A comment that the directive leaves open hides the second header altogether.
  cases (Scan.line false (hashed t)).2 <;> decide

theorem exists_depth_ne (hfeed : '\n' ∉ t) (h : namesDirective t = true) :
    ∃ front code new, commentOpen front = false ∧ Inserted front (hashed t) code new ∧
      depth new ≠ depth code := by
  by_cases hflat : (directiveCounts t (0, 0)).2 = 0
  · refine ⟨outerHeader, outerHeader ++ innerHeader, _, by decide,
      .among (.inr (by decide)) (.inl rfl), ?_⟩
    rw [depth_parted hfeed h hflat]
    decide
  · refine ⟨[], [], _, by decide, .last (.inl rfl), ?_⟩
    rwa [List.nil_append, depth_directive hfeed h]

-- ---------------------------------------------------------------------------
-- Any line behind a hash
-- ---------------------------------------------------------------------------

/-- A line of its own behind a hash leaves every nesting depth as it is, wherever no block comment
is open, unless its first word names a directive; one of these changes the depth of some text. -/
theorem depth_hashed_iff (hfeed : '\n' ∉ t) :
    (∀ front spaces code new, commentOpen front = false → Spacing spaces →
      Inserted front (spaces ++ hashed t) code new → depth new = depth code) ↔
      namesDirective t = false := by
  constructor
  · intro hall
    cases h : namesDirective t with
    | false => rfl
    | true =>
      obtain ⟨front, code, new, hopen, hi, hne⟩ := exists_depth_ne hfeed h
      exact absurd (hall front [] code new hopen (fun _ hc => nomatch hc) hi) hne
  · intro h front spaces code new hopen hs hi
    have hspaces : '\n' ∉ spaces := hs.not_mem (by decide) (by decide)
    have hline : '\n' ∉ spaces ++ hashed t :=
      List.not_mem_append hspaces (Scan.feed_not_mem_hashed hfeed)
    exact depth_inserted hopen hs hline (Scan.line_hashed h hs.blank) hi

/-- A remark with braces, an open quote, an open comment and a colon, and one that starts with the
name of a directive. -/
theorem depth_hashed_iff_remarks :
    let remark : Text := "\x7d \x7b defines ' /* if:"
    let directive : Text := " else"
    let front : Text := "while a:\n"
    let back : Text := "  if b:\n    c"
    let new := front ++ (" \t".toList ++ hashed remark ++ ['\n']) ++ back
    '\n' ∉ remark ∧ namesDirective remark = false ∧
      Inserted front (" \t".toList ++ hashed remark) (front ++ back) new ∧
      depth (front ++ back) = 2 ∧ depth new = 2 ∧
      '\n' ∉ directive ∧ namesDirective directive = true ∧
      ¬ ∀ front spaces code new, commentOpen front = false → Spacing spaces →
        Inserted front (spaces ++ hashed directive) code new → depth new = depth code := by
  intro remark directive front back new
  have hfeed : '\n' ∉ remark := by decide
  have hremark : namesDirective remark = false := by decide
  have hi : Inserted front (" \t".toList ++ hashed remark) (front ++ back) new :=
    .among (.inr (by decide)) (.inl rfl)
  have hdepth : depth (front ++ back) = 2 := by decide
  have hsame := (depth_hashed_iff hfeed).mpr hremark front " \t".toList _ _ (by decide)
    (by decide) hi
  have hfeed' : '\n' ∉ directive := by decide
  have hdirective : namesDirective directive = true := by decide
  refine ⟨hfeed, hremark, hi, hdepth, hsame.trans hdepth, hfeed', hdirective, fun hall => ?_⟩
  exact Bool.false_ne_true (((depth_hashed_iff hfeed').mp hall).symm.trans hdirective)

/-- A remark on the names in a set is read as a directive, and its brace opens a block. -/
theorem depth_defined_set :
    let remark : Text := "define \x7ba, b\x7d"
    let front : Text := "def f():\n"
    let back : Text := "    return 1\n"
    let line := "    ".toList ++ hashed remark
    '\n' ∉ remark ∧ commentOpen front = false ∧ Spacing "    ".toList ∧
      Inserted front line (front ++ back) (front ++ (line ++ ['\n']) ++ back) ∧
      depth (front ++ back) = 1 ∧ depth (front ++ (line ++ ['\n']) ++ back) = 2 := by
  intro remark front back line
  exact ⟨by decide, by decide, by decide, .among (.inr (by decide)) (.inl rfl), by decide,
    by decide⟩

end Nesting

end Critique
