import Critique.Proofs.Layout.Spacing
import Critique.Proofs.Nesting.Depth

/-!
# Nesting depth of joined texts

`depth_append`: behind whole lines that leave no brace and no comment open, a text that starts at
the margin is nested as deep as on its own. Blocks that are still open end at its first line.
-/

namespace Critique

open Text (Fresh)

theorem Text.Fresh.lines_append {front : Text} (h : Fresh front) (back : Text) :
    lines (front ++ back) = lines front ++ lines back := by
  rcases h with rfl | h
  · rfl
  · obtain ⟨front, rfl⟩ := List.getLast?_eq_some_iff.mp h
    have hlines (back : Text) :
        lines (front ++ '\n' :: back) = (pieces front).map dropCarriage ++ lines back := by
      rw [lines, pieces_append, linesOfPieces_append _ (pieces_ne_nil back), lines]
    rw [List.append_assoc, List.singleton_append, hlines, hlines]
    simp [lines, linesOfPieces]

namespace Nesting

variable {a b : Text} {state : State} {row : Row} {rows : List Row}

-- ---------------------------------------------------------------------------
-- Rows of joined texts
-- ---------------------------------------------------------------------------

theorem State.inComment_next (state : State) (line : Text) :
    (state.next line).inComment = (Scan.line state.inComment line).2 :=
  congrArg State.inComment (state.next_eq_read state.inComment line)

theorem scanned_append (state : State) (lines more : List Text) :
    scanned state.inComment (lines ++ more) =
      scanned state.inComment lines ++ scanned (run state lines).inComment more := by
  induction lines generalizing state with
  | nil => rfl
  | cons line lines ih =>
    have hnext := ih (state.next line)
    rw [state.inComment_next] at hnext
    simp only [List.cons_append, scanned, hnext]
    rfl

/-- Whole lines behind which no brace and no comment is open. Indented blocks may be. -/
structure Settled (a : Text) : Prop where
  fresh : Fresh a
  braces : (run .start (Text.lines a)).braces = 0
  comment : (run .start (Text.lines a)).inComment = false

theorem Settled.rowsOf_append (ha : Settled a) (b : Text) :
    rowsOf (a ++ b) = rowsOf a ++ rowsOf b := by
  have h := scanned_append .start (Text.lines a) (Text.lines b)
  rw [ha.comment] at h
  rw [rowsOf, ha.fresh.lines_append]
  exact h

-- ---------------------------------------------------------------------------
-- What was reached before
-- ---------------------------------------------------------------------------

/-- The state, where a depth was reached before. -/
def State.deepened (reached : Nat) (state : State) : State :=
  { state with deepest := max reached state.deepest }

theorem brace_max (outer reached : Nat) (counts : Nat × Nat) (c : Char) :
    brace outer (counts.1, max reached counts.2) c =
      ((brace outer counts c).1, max reached (brace outer counts c).2) := by
  by_cases hopen : c = '{'
  · subst hopen
    exact Prod.ext rfl (Nat.max_assoc reached counts.2 _)
  by_cases hclose : c = '}'
  · subst hclose
    rfl
  · rw [brace_of_ne hopen hclose, brace_of_ne hopen hclose]

theorem foldl_brace_max (outer reached : Nat) (counts : Nat × Nat) (code : Text) :
    code.foldl (brace outer) (counts.1, max reached counts.2) =
      ((code.foldl (brace outer) counts).1, max reached (code.foldl (brace outer) counts).2) := by
  induction code generalizing counts with
  | nil => rfl
  | cons c code ih => rw [List.foldl_cons, brace_max, ih, List.foldl_cons]

theorem State.read_deepened (reached : Nat) (state : State) (row : Row) :
    (state.deepened reached).read row = (state.read row).deepened reached := by
  unfold read
  split
  · rfl
  · have hbrace := foldl_brace_max (state.blocks.dropWhile (Layout.indent row.line ≤ ·)).length
      reached (state.braces, state.deepest) row.code
    simp only [enter_eq, deepened, hbrace]
    split <;> simp [Nat.max_assoc]

theorem foldl_read_deepened (reached : Nat) (state : State) (rows : List Row) :
    rows.foldl State.read (state.deepened reached) = (rows.foldl State.read state).deepened reached := by
  induction rows generalizing state with
  | nil => rfl
  | cons row rows ih => rw [List.foldl_cons, State.read_deepened, ih, List.foldl_cons]

-- ---------------------------------------------------------------------------
-- Blocks that are still open
-- ---------------------------------------------------------------------------

theorem State.read_of_unseen (h : row.width? = none) (state : State) : state.read row = state := by
  have hempty : row.code.isEmpty = true := by
    by_contra hcode
    simp [Row.width?, hcode] at h
  rw [read, if_pos hempty]

theorem State.read_of_flush (h : row.width? = some 0) (state : State) (blocks : List Nat) :
    { state with blocks }.read row = { state with blocks := [] }.read row := by
  have hcode : row.code.isEmpty = false ∧ Layout.indent row.line = 0 := by
    simpa [Row.width?] using h
  -- All blocks end at the margin.
  have hblocks : blocks.dropWhile (0 ≤ ·) = [] := by simp
  simp only [read, hcode.1, hcode.2, enter_eq, hblocks, List.dropWhile_nil, Bool.false_eq_true,
    if_false]

/-- Something is seen at the margin before anything is seen further right. -/
def StartsFlush (rows : List Row) : Prop := ∀ w ∈ rows.findSome? Row.width?, w = 0

instance : Decidable (StartsFlush rows) :=
  inferInstanceAs (Decidable (∀ w ∈ rows.findSome? Row.width?, w = 0))

theorem StartsFlush.deepest (h : StartsFlush rows) (state : State) (blocks : List Nat) :
    (rows.foldl State.read { state with blocks }).deepest =
      (rows.foldl State.read { state with blocks := [] }).deepest := by
  induction rows with
  | nil => rfl
  | cons row rows ih =>
    rw [List.foldl_cons, List.foldl_cons]
    cases hw : row.width? with
    | none =>
      have hrows : StartsFlush rows := by simpa [StartsFlush, hw] using h
      rw [State.read_of_unseen hw, State.read_of_unseen hw, ih hrows]
    | some w =>
      have hzero : w = 0 := h w (by simp [hw])
      rw [State.read_of_flush (hzero ▸ hw)]

-- ---------------------------------------------------------------------------
-- Depth
-- ---------------------------------------------------------------------------

theorem inComment_foldl_read (state : State) (rows : List Row) :
    (rows.foldl State.read state).inComment = state.inComment := by
  induction rows generalizing state with
  | nil => rfl
  | cons row rows ih =>
    rw [List.foldl_cons, ih, State.read]
    split
    · rfl
    · rw [State.enter_eq]

/-- What is known behind settled lines is their depth and the blocks they leave open. -/
theorem Settled.foldl_read (ha : Settled a) : ∃ blocks,
    (rowsOf a).foldl State.read .start = { State.start.deepened (depth a) with blocks } := by
  obtain ⟨isOpen, hrun⟩ := exists_run_eq .start false (Text.lines a)
  have hbraces : ((rowsOf a).foldl State.read .start).braces = 0 :=
    (congrArg State.braces hrun).symm.trans ha.braces
  have hcomment := inComment_foldl_read .start (rowsOf a)
  have hdepth := depth_eq a
  generalize (rowsOf a).foldl State.read .start = state at hbraces hcomment hdepth ⊢
  obtain ⟨inComment, braces, blocks, deepest⟩ := state
  obtain rfl : braces = 0 := hbraces
  obtain rfl : inComment = false := hcomment
  exact ⟨blocks, by simp [State.deepened, State.start, hdepth]⟩

/-- The nesting depth of joined texts is the larger one of theirs, if the first is whole lines that
leave no brace and no comment open and the second starts at the margin. -/
theorem depth_append (ha : Settled a) (hb : StartsFlush (rowsOf b)) :
    depth (a ++ b) = max (depth a) (depth b) := by
  obtain ⟨blocks, hread⟩ := ha.foldl_read
  rw [depth_eq, ha.rowsOf_append, List.foldl_append, hread, hb.deepest, depth_eq b]
  exact congrArg State.deepest (foldl_read_deepened (depth a) .start (rowsOf b))

/-- Two blocks are still open behind the first text, and the second starts with a remark. -/
theorem depth_append_open_blocks :
    let a : Text := "def f():\n  if x: /* \x7b\n */\n    y(\x7b \x7d)\n"
    let b : Text := "\n  # \x7b\r\nwhile z:\n\tg(\x7b\x7b\x7b"
    Settled a ∧ (run .start (Text.lines a)).blocks = [2, 0] ∧ StartsFlush (rowsOf b) ∧
      depth a = 3 ∧ depth b = 4 ∧ depth (a ++ b) = 4 := by
  intro a b
  have ha : Settled a := ⟨.inr (by decide), by decide, by decide⟩
  have hb : StartsFlush (rowsOf b) := by decide
  have hdeptha : depth a = 3 := by decide
  have hdepthb : depth b = 4 := by decide
  have hdepth : depth (a ++ b) = max (depth a) (depth b) := depth_append ha hb
  exact ⟨ha, by decide, hb, hdeptha, hdepthb, by rw [hdepth, hdeptha, hdepthb]; rfl⟩

end Nesting

end Critique
