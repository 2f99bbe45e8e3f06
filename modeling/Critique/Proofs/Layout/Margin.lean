import Critique.Proofs.Layout.Line
import Critique.Proofs.Layout.Scan
import Critique.Proofs.Text.Lines

/-!
# A margin in front of every line

A margin of spaces and tabs moves all lines to the right by its width. `lines_indented`: the lines
of the moved text are the lines with the margin in front. What compares indentations then answers
as before, and the nesting depth is reached with all open blocks moved by the same width.
-/

namespace Critique

open Text (blank)

variable {margin : Text}

-- ---------------------------------------------------------------------------
-- Moved texts
-- ---------------------------------------------------------------------------

namespace Text

/-- Made of spaces and tabs alone. -/
def Spacing (t : Text) : Prop := ∀ c ∈ t, c = ' ' ∨ c = '\t'

instance (t : Text) : Decidable (Spacing t) := List.decidableBAll (fun c => c = ' ' ∨ c = '\t') t

/-- The text with a margin in front of each line; `fresh` says that a line starts here. -/
def indentFrom (margin : Text) : (fresh : Bool) → Text → Text
  | _, [] => []
  | fresh, c :: rest => (if fresh then margin else []) ++ c :: indentFrom margin (c == '\n') rest

/-- The text with a margin in front of every line. -/
def indented (margin t : Text) : Text := indentFrom margin true t

theorem Spacing.not_mem (h : Spacing margin) {c : Char} (hspace : c ≠ ' ') (htab : c ≠ '\t') :
    c ∉ margin := fun hc => (h c hc).elim hspace htab

theorem Spacing.blank (h : Spacing margin) : blank margin = true := by
  refine List.all_eq_true.mpr fun c hc => ?_
  rcases h c hc with rfl | rfl <;> decide

theorem indentFrom_last {fresh : Bool} {t : Text} (h : '\n' ∉ t) :
    indentFrom margin fresh t = if t.isEmpty then [] else (if fresh then margin else []) ++ t := by
  induction t generalizing fresh with
  | nil => rfl
  | cons c t ih =>
    obtain ⟨hc, ht⟩ := List.ne_and_not_mem_of_not_mem_cons h
    have hc : (c == '\n') = false := beq_eq_false_iff_ne.mpr hc.symm
    rw [indentFrom, hc, ih ht]
    cases t <;> simp

theorem indentFrom_append_feed {fresh : Bool} {t : Text} (h : '\n' ∉ t) (more : Text) :
    indentFrom margin fresh (t ++ '\n' :: more) =
      (if fresh then margin else []) ++ t ++ '\n' :: indentFrom margin true more := by
  induction t generalizing fresh with
  | nil => simp [indentFrom]
  | cons c t ih =>
    obtain ⟨hc, ht⟩ := List.ne_and_not_mem_of_not_mem_cons h
    have hc : (c == '\n') = false := beq_eq_false_iff_ne.mpr hc.symm
    rw [List.cons_append, indentFrom, hc, ih ht]
    simp

theorem indented_unlines_append {ps : List Text} (h : ∀ p ∈ ps, '\n' ∉ p) (last : Text) :
    indented margin (unlines ps ++ last) =
      unlines (ps.map (margin ++ ·)) ++ indented margin last := by
  induction ps with
  | nil => rfl
  | cons p ps ih =>
    obtain ⟨hp, hps⟩ := List.forall_mem_cons.mp h
    have happ : unlines (p :: ps) ++ last = p ++ '\n' :: (unlines ps ++ last) := by
      simp [unlines, line]
    rw [happ, indented, indentFrom_append_feed hp, ← indented, ih hps]
    simp [unlines, line]

theorem dropCarriage_margin (h : '\r' ∉ margin) (l : Text) :
    dropCarriage (margin ++ l) = margin ++ dropCarriage l := by
  rcases List.eq_nil_or_concat l with rfl | ⟨l, c, rfl⟩
  · have hlast : margin.getLast? ≠ some '\r' := fun hl => h (List.mem_of_getLast? hl)
    rw [List.append_nil, dropCarriage_of_ne hlast]
    exact (List.append_nil _).symm
  · rw [List.concat_eq_append, ← List.append_assoc, dropCarriage, dropCarriage,
      List.getLast?_concat, List.getLast?_concat, List.dropLast_concat, List.dropLast_concat]
    split
    · rfl
    · exact List.append_assoc ..

/-- A margin in front of every line of a text. -/
theorem lines_indented (hm : Spacing margin) (t : Text) :
    lines (indented margin t) = (lines t).map (margin ++ ·) := by
  obtain ⟨ps, last, hps, hlast, rfl⟩ := exists_unlines t
  have hfeed : '\n' ∉ margin := hm.not_mem (by decide) (by decide)
  have hmoved : ∀ p ∈ ps.map (margin ++ ·), '\n' ∉ p :=
    List.forall_mem_map.mpr fun p h => List.not_mem_append hfeed (hps p h)
  have hdrop : (ps.map (margin ++ ·)).map dropCarriage =
      (ps.map dropCarriage).map (margin ++ ·) := by
    simp only [List.map_map]
    exact List.map_congr_left fun p _ =>
      dropCarriage_margin (hm.not_mem (by decide) (by decide)) p
  rw [indented_unlines_append hps, lines, pieces_unlines_append _ hmoved,
    linesOfPieces_append _ (pieces_ne_nil _), hdrop, lines, pieces_unlines hps hlast,
    linesOfPieces_append _ (by simp), List.map_append, indented, indentFrom_last hlast]
  congr 1
  -- An empty last piece is no line, and gets no margin.
  cases last with
  | nil => rfl
  | cons c last =>
    have hfree : '\n' ∉ margin ++ c :: last := List.not_mem_append hfeed hlast
    simp [pieces_of_not_mem hfree, linesOfPieces]

end Text

-- ---------------------------------------------------------------------------
-- Outline
-- ---------------------------------------------------------------------------

theorem Layout.body_margin (hm : blank margin = true) (width : Nat) (following : List Text) :
    body (indent margin + width) (following.map (margin ++ ·)) =
      (body width following).map (margin ++ ·) := by
  induction following with
  | nil => rfl
  | cons l following ih =>
    have hblank : blank (margin ++ l) = blank l := by rw [Text.blank_append, hm, Bool.true_and]
    simp only [List.map_cons, body, hblank, indent_margin hm, Nat.add_lt_add_iff_left, ih]
    split
    · rfl
    · split <;> rfl

namespace Outline

theorem bodyHas_margin (hm : blank margin = true) {property : Text → Bool}
    (hp : ∀ l, property (margin ++ l) = property l) (l : Text) (following : List Text) :
    bodyHas property (margin ++ l) (following.map (margin ++ ·)) =
      bodyHas property l following := by
  rw [bodyHas, Layout.indent_margin hm, Layout.body_margin hm, List.any_map, bodyHas]
  exact congrArg _ (funext hp)

theorem callsItself_margin (hm : blank margin = true) (l : Text) (following : List Text) :
    callsItself (margin ++ l) (following.map (margin ++ ·)) = callsItself l following := by
  rw [callsItself, callsItself, definition?_margin hm]
  cases hd : definition? l with
  | none => rfl
  | some found =>
    have hname : IsName found.1 := isName_of_definition? hd
    simp only [bodyHas_margin hm (calls_margin hname hm)]

theorem holdsAnother_margin (hm : blank margin = true) {header : Pattern}
    (hh : ∀ l, header.occursIn (margin ++ l) = header.occursIn l) (l : Text)
    (following : List Text) :
    holdsAnother header (margin ++ l) (following.map (margin ++ ·)) =
      holdsAnother header l following := by
  rw [holdsAnother, hh, bodyHas_margin hm hh, holdsAnother]

theorem someLine_margin {relation : Text → List Text → Bool}
    (hr : ∀ l following, relation (margin ++ l) (following.map (margin ++ ·)) =
      relation l following) (lines : List Text) :
    someLine relation (lines.map (margin ++ ·)) = someLine relation lines := by
  induction lines with
  | nil => rfl
  | cons l lines ih => rw [List.map_cons, someLine, hr, ih, someLine]

end Outline

-- ---------------------------------------------------------------------------
-- Nesting
-- ---------------------------------------------------------------------------

namespace Nesting

/-- The state with all open blocks further right. -/
def State.shift (width : Nat) (state : State) : State :=
  { state with blocks := state.blocks.map (width + ·) }

theorem State.next_eq (state : State) (l : Text) :
    state.next l =
      let scanned := Scan.line state.inComment l
      let read := { state with inComment := scanned.2 }
      if (Text.trim scanned.1).isEmpty then read
      else read.enter (Layout.indent l) (Text.trim scanned.1) := rfl

theorem State.enter_shift (width : Nat) (state : State) (indent : Nat) (code : Text) :
    (state.shift width).enter (width + indent) code = (state.enter indent code).shift width := by
  have hblocks : (state.blocks.map (width + ·)).dropWhile (width + indent ≤ ·) =
      (state.blocks.dropWhile (indent ≤ ·)).map (width + ·) := by
    rw [List.dropWhile_map]
    congr 2
    funext block
    simp
  simp only [enter, shift, hblocks, List.length_map]
  split <;> rfl

/-- One line further right is read with the open blocks further right. -/
theorem State.next_margin (hm : blank margin = true) (state : State) (l : Text) :
    (state.shift (Layout.indent margin)).next (margin ++ l) =
      (state.next l).shift (Layout.indent margin) := by
  obtain ⟨hcode, hcomment⟩ := Scan.line_margin hm state.inComment l
  have hread : (state.shift (Layout.indent margin)).inComment = state.inComment := rfl
  simp only [next_eq, hread, hcode, hcomment, Layout.indent_margin hm]
  split
  · rfl
  · exact State.enter_shift _ { state with inComment := _ } _ _

theorem run_margin (hm : blank margin = true) (state : State) (lines : List Text) :
    run (state.shift (Layout.indent margin)) (lines.map (margin ++ ·)) =
      (run state lines).shift (Layout.indent margin) := by
  induction lines generalizing state with
  | nil => rfl
  | cons l lines ih =>
    simp only [run, List.map_cons, List.foldl_cons] at ih ⊢
    rw [State.next_margin hm, ih]

end Nesting

end Critique
