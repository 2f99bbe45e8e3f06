import Critique.Proofs.Growth.Lines
import Critique.Proofs.Layout.Spacing

/-!
# Comments do not nest

A comment behind a slash is not seen, so the nesting depth does not depend on it.
`depth_commented`: a comment may be put behind any line that ends in code, up to the end of the line
or closed on it, and on a line of its own wherever no block comment is open.
-/

namespace Critique

open Text (blank isBlank)

-- ---------------------------------------------------------------------------
-- Lines
-- ---------------------------------------------------------------------------

namespace Scan

def Mode.isCode : Mode → Bool
  | .code _ => true
  | .quoted _ | .comment => false

/-- Behind the line the scanner is neither in a string literal nor in a block comment. -/
def endsInCode (inComment : Bool) (l : Text) : Bool :=
  (modeAfter? (isDirective l) (if inComment then .comment else .code false) l).all Mode.isCode

/-- A comment behind a blank, which shows nothing and is closed on its line. -/
structure Remark (more : Text) : Prop extends Apart more where
  ne_nil : more ≠ []
  unseen : ∀ directive afterDot, ∃ rest, blank rest = true ∧
    visible directive (.code afterDot) more = (rest, false)

theorem line_append_remark {more : Text} (h : Remark more) {inComment : Bool} {l : Text}
    (hl : endsInCode inComment l = true) :
    Text.trim (line inComment (l ++ more)).1 = Text.trim (line inComment l).1 ∧
      (line inComment (l ++ more)).2 = (line inComment l).2 := by
  have hmode : Mode.Proper (if inComment then .comment else .code false) := by
    cases inComment <;> trivial
  have hsnd := visible_snd (isDirective l) (if inComment then .comment else .code false) l
  obtain ⟨c, rest, rfl⟩ := List.exists_cons_of_ne_nil h.ne_nil
  have hc : isBlank c = true := h.blankFirst c rfl
  rw [line, line, h.isDirective_append, visible_append _ hmode hc]
  unfold endsInCode at hl
  cases hlast : modeAfter? (isDirective l) (if inComment then .comment else .code false) l with
  | none => exact ⟨rfl, rfl⟩
  | some last =>
    rw [hlast] at hl hsnd
    cases last with
    | quoted | comment => cases hl
    | code afterDot =>
      obtain ⟨rest', hb, hr⟩ := h.unseen (isDirective l) afterDot
      simp only [hr]
      exact ⟨Text.trim_append_blank hb _, hsnd.symm⟩

theorem apart_slash (rest : Text) : Apart (' ' :: '/' :: rest) := by
  constructor
  · rintro c ⟨⟩
    decide
  · rfl
  · exact fun rest h => nomatch h

theorem remark_line (t : Text) : Remark (" // ".toList ++ t) := by
  refine ⟨apart_slash _, List.cons_ne_nil _ _, fun directive afterDot => ⟨[' '], by decide, ?_⟩⟩
  show visible directive (.code afterDot) (' ' :: '/' :: '/' :: ' ' :: t) = _
  rw [visible_code_blank (by decide)]
  rfl

/-- A block comment goes on to the first place where it is closed. -/
theorem visible_comment_closed (directive : Bool) {t : Text} (ht : ¬ ['*', '/'] <:+: t) :
    visible directive .comment (t ++ " */".toList) = ([], false) := by
  induction t with
  | nil => rfl
  | cons c t ih =>
    have hrest : ¬ ['*', '/'] <:+: t := fun h => ht (h.trans (List.suffix_cons c t).isInfix)
    rw [List.cons_append, visible.eq_3, ih hrest]
    rintro rest rfl hslash
    cases t with
    | nil => cases hslash
    | cons d t =>
      obtain ⟨rfl, -⟩ := List.cons.inj hslash
      exact ht ⟨[], t, rfl⟩

theorem remark_block {t : Text} (ht : ¬ ['*', '/'] <:+: t) :
    Remark (" /* ".toList ++ t ++ " */".toList) := by
  refine ⟨apart_slash _, List.cons_ne_nil _ _, fun directive afterDot => ⟨[' '], by decide, ?_⟩⟩
  show visible directive (.code afterDot) (' ' :: '/' :: '*' :: ' ' :: (t ++ " */".toList)) = _
  have hinside : visible directive .comment (' ' :: (t ++ " */".toList)) = ([], false) := by
    rw [visible_comment_blank (by decide), visible_comment_closed directive ht]
  rw [visible_code_blank (by decide)]
  show (' ' :: (visible directive .comment _).1, (visible directive .comment _).2) = _
  rw [hinside]

/-- Nothing is visible of a line that is a comment. -/
theorem line_slashes {margin : Text} (hm : blank margin = true) (t : Text) :
    line false (margin ++ "//".toList ++ t) = (margin, false) := by
  rw [line, if_neg Bool.false_ne_true, List.append_assoc, visible_code_append hm]
  show (margin ++ [], false) = _
  rw [List.append_nil]

end Scan

-- ---------------------------------------------------------------------------
-- One line
-- ---------------------------------------------------------------------------

namespace Nesting

theorem State.next_remark {more : Text} (h : Scan.Remark more) (state : State) {l : Text}
    (hl : Scan.endsInCode state.inComment l = true) : state.next (l ++ more) = state.next l := by
  obtain ⟨hcode, hcomment⟩ := Scan.line_append_remark h hl
  simp only [next_eq, hcode, hcomment]
  cases hb : blank l with
  -- Where the indentation of the line is not its own, the line says nothing.
  | true => rw [(Scan.line_of_blank hb state.inComment).1]; rfl
  | false => rw [Layout.indent_append hb]

/-- A line of which blanks are visible at most, and which leaves no comment open. -/
theorem State.next_unseen {state : State} (hopen : state.inComment = false) {margin l : Text}
    (hm : blank margin = true) (hl : Scan.line false l = (margin, false)) :
    state.next l = state := by
  have hseen : Text.trim margin = [] := Text.trim_append_blank hm []
  rw [next_eq, hopen, hl]
  simp only [hseen, ← hopen]
  rfl

end Nesting

-- ---------------------------------------------------------------------------
-- A line in a text
-- ---------------------------------------------------------------------------

namespace Text

/-- Whether a line stops in front of a text. -/
def Stops (back : Text) : Prop := back = [] ∨ ∃ ending rest, Ends ending ∧ back = ending ++ rest

/-- A line of `front ++ line ++ back`. -/
structure IsLine (front line back : Text) : Prop where
  fresh : Fresh front
  noFeed : '\n' ∉ line
  stops : Stops back

theorem fresh_unlines (ps : List Text) : Fresh (unlines ps) := by
  rcases List.eq_nil_or_concat ps with rfl | ⟨ps, p, rfl⟩
  · exact .inl rfl
  · exact .inr (by simp [unlines, line])

theorem exists_dropCarriage (p : Text) :
    ∃ mark, Ends (mark ++ ['\n']) ∧ p = dropCarriage p ++ mark := by
  by_cases h : p.getLast? = some '\r'
  · obtain ⟨front, rfl⟩ := List.getLast?_eq_some_iff.mp h
    exact ⟨['\r'], .inr rfl, by simp [dropCarriage]⟩
  · exact ⟨[], .inl rfl, by rw [dropCarriage_of_ne h, List.append_nil]⟩

/-- Each of the lines of a text is one where it stands. -/
theorem exists_isLine {t l : Text} (h : l ∈ lines t) :
    ∃ front back, t = front ++ l ++ back ∧ IsLine front l back := by
  obtain ⟨ps, last, hps, hlast, rfl⟩ := exists_unlines t
  rw [lines, pieces_unlines hps hlast, linesOfPieces_append _ (by simp), List.mem_append] at h
  rcases h with h | h
  · obtain ⟨p, hp, rfl⟩ := List.mem_map.mp h
    obtain ⟨mark, he, hmark⟩ := exists_dropCarriage p
    obtain ⟨above, below, rfl⟩ := List.append_of_mem hp
    refine ⟨unlines above, mark ++ ['\n'] ++ (unlines below ++ last), ?_,
      fresh_unlines above, fun hfeed => hps p hp ?_, .inr ⟨_, _, he, rfl⟩⟩
    · have hline : p ++ ['\n'] = dropCarriage p ++ (mark ++ ['\n']) := by
        rw [← List.append_assoc, ← hmark]
      simp only [unlines, List.flatMap_append, List.flatMap_cons, Text.line, hline,
        List.append_assoc]
    · rw [hmark]
      exact List.mem_append_left _ hfeed
  · obtain rfl : l = last := by
      cases last with
      | nil => simp [linesOfPieces] at h
      | cons c last => simpa [linesOfPieces] using h
    exact ⟨unlines ps, [], (List.append_nil _).symm, fresh_unlines ps, hlast, .inl rfl⟩

theorem Ends.essential_pieces {ending : Text} (h : Ends ending) (t : Text) :
    essential (pieces (t ++ ending)) = essential (pieces t) := by
  obtain ⟨mark, hmark, hfree, rfl⟩ := h.exists_eq
  rw [← List.append_assoc, pieces_append, pieces_nil, Text.essential_append,
    essential_of_blank rfl, List.append_nil, essential_pieces_append hmark hfree]

theorem Ends.fresh {ending : Text} (h : Ends ending) (t : Text) : Fresh (t ++ ending) := by
  obtain ⟨mark, -, -, rfl⟩ := h.exists_eq
  exact .inr (by simp)

theorem Ends.essential_append {ending : Text} (h : Ends ending) (t rest : Text) :
    essential (pieces (t ++ (ending ++ rest))) =
      essential (pieces t) ++ essential (pieces rest) := by
  rw [← List.append_assoc, (h.fresh t).essential_append, h.essential_pieces]

/-- What follows a line says the same, whatever the line says. -/
theorem Stops.essential_append {back : Text} (h : Stops back) :
    ∃ following, ∀ line, essential (pieces (line ++ back)) =
      essential (pieces line) ++ following := by
  rcases h with rfl | ⟨ending, rest, he, rfl⟩
  · exact ⟨[], fun line => by rw [List.append_nil, List.append_nil]⟩
  · exact ⟨_, fun line => he.essential_append line rest⟩

/-- Texts that arise when a line is put in where `front` ends. -/
inductive Inserted (front line : Text) : Text → Text → Prop where
  | among {back ending : Text} : Fresh front → Ends ending →
      Inserted front line (front ++ back) (front ++ (line ++ ending) ++ back)
  | last : Fresh front → Inserted front line front (front ++ line)
  | behind {ending stop : Text} : Ends ending → stop = [] ∨ Ends stop →
      Inserted front line front (front ++ ending ++ line ++ stop)

theorem Inserted.exists_essential {front line code new : Text} (h : Inserted front line code new) :
    ∃ following, essential (pieces code) = essential (pieces front) ++ following ∧
      essential (pieces new) =
        essential (pieces front) ++ essential (pieces line) ++ following := by
  cases h with
  | @among back ending hfront he =>
    refine ⟨essential (pieces back), hfront.essential_append back, ?_⟩
    rw [List.append_assoc, List.append_assoc line, hfront.essential_append, he.essential_append,
      List.append_assoc]
  | last hfront =>
    exact ⟨[], (List.append_nil _).symm, by rw [hfront.essential_append, List.append_nil]⟩
  | @behind ending stop he hs =>
    refine ⟨[], (List.append_nil _).symm, ?_⟩
    have hline : essential (pieces (front ++ ending ++ line)) =
        essential (pieces front) ++ essential (pieces line) := by
      rw [(he.fresh front).essential_append, he.essential_pieces]
    rcases hs with rfl | hs
    · rw [List.append_nil, List.append_nil, hline]
    · rw [hs.essential_pieces, hline, List.append_nil]

end Text

-- ---------------------------------------------------------------------------
-- A text
-- ---------------------------------------------------------------------------

namespace Nesting

open Text (Fresh Stops IsLine Inserted Spacing essential pieces)

/-- Whether a block comment is open behind the lines of a text. -/
def commentOpen (front : Text) : Bool := (run .start (Text.lines front)).inComment

theorem commentOpen_eq (front : Text) :
    commentOpen front = (run .start (essential (pieces front))).inComment := by
  rw [commentOpen, ← run_essential, Text.essential_lines]

theorem depth_essential (code : Text) : depth code = (run .start (essential (pieces code))).deepest := by
  rw [depth, ← run_essential, Text.essential_lines]

theorem run_line (state : State) {l : Text} (hl : '\n' ∉ l) :
    run state (essential (pieces l)) = state.next l := by
  rw [run_essential, Text.pieces_of_not_mem hl]
  rfl

/-- Texts that arise when one comment with the words `t` is put into one: behind a line that ends in
code, up to the end of the line or closed on it, or on a line of its own outside block comments. -/
inductive Commented (t : Text) : Text → Text → Prop where
  | behind {front line back : Text} : IsLine front line back →
      Scan.endsInCode (commentOpen front) line = true →
      Commented t (front ++ line ++ back) (front ++ (line ++ (" // ".toList ++ t)) ++ back)
  | closed {front line back : Text} : IsLine front line back →
      Scan.endsInCode (commentOpen front) line = true → ¬ ['*', '/'] <:+: t →
      Commented t (front ++ line ++ back)
        (front ++ (line ++ (" /* ".toList ++ t ++ " */".toList)) ++ back)
  | own {front spaces code new : Text} : commentOpen front = false → Spacing spaces →
      Inserted front (spaces ++ "//".toList ++ t) code new → Commented t code new

theorem depth_remark {front line back more : Text} (hline : IsLine front line back)
    (hcode : Scan.endsInCode (commentOpen front) line = true) (hmore : Scan.Remark more)
    (hfeed : '\n' ∉ more) :
    depth (front ++ (line ++ more) ++ back) = depth (front ++ line ++ back) := by
  obtain ⟨following, hf⟩ := hline.stops.essential_append
  rw [commentOpen_eq] at hcode
  have hwith : '\n' ∉ line ++ more := List.not_mem_append hline.noFeed hfeed
  rw [depth_essential, depth_essential, List.append_assoc, List.append_assoc front line back,
    hline.fresh.essential_append, hline.fresh.essential_append, hf, hf]
  simp only [run_append, run_line _ hwith, run_line _ hline.noFeed,
    State.next_remark hmore _ hcode]

/-- A line on its own of which spaces are visible at most. -/
theorem depth_inserted {front spaces line code new : Text} (hopen : commentOpen front = false)
    (hs : Spacing spaces) (hfeed : '\n' ∉ line) (hl : Scan.line false line = (spaces, false))
    (h : Inserted front line code new) : depth new = depth code := by
  obtain ⟨following, hcode, hnew⟩ := h.exists_essential
  rw [commentOpen_eq] at hopen
  simp only [depth_essential, hcode, hnew, run_append, run_line _ hfeed,
    State.next_unseen hopen hs.blank hl]

/-- The nesting depth of a text does not change when a comment behind slashes is put into it,
whatever stands in the comment. -/
theorem depth_commented {t code new : Text} (hfeed : '\n' ∉ t) (h : Commented t code new) :
    depth new = depth code := by
  cases h with
  | behind hline hcode =>
    exact depth_remark hline hcode (Scan.remark_line t) (List.not_mem_append (by decide) hfeed)
  | closed hline hcode hclose =>
    have hmore : '\n' ∉ " /* ".toList ++ t ++ " */".toList :=
      List.not_mem_append (List.not_mem_append (by decide) hfeed) (by decide)
    exact depth_remark hline hcode (Scan.remark_block hclose) hmore
  | @own front spaces code new hopen hs hi =>
    have hspaces : '\n' ∉ spaces := hs.not_mem (by decide) (by decide)
    have hline : '\n' ∉ spaces ++ "//".toList ++ t :=
      List.not_mem_append (List.not_mem_append hspaces (by decide)) hfeed
    exact depth_inserted hopen hs hline (Scan.line_slashes hs.blank t) hi

/-- Comments that hold braces, an open quote and an open comment, behind a line with slashes in
quotes and on a line of their own. -/
theorem depth_commented_unclosed :
    let t : Text := "\x7d \x7b \x7b \" /* # :"
    let front : Text := "while a:\n"
    let line : Text := "  if s == \"\x7d//\":"
    let back : Text := "\r\n    f(x) \x7b\n"
    let code := front ++ line ++ back
    let ended := front ++ (line ++ (" // ".toList ++ t)) ++ back
    let shut := front ++ (line ++ (" /* ".toList ++ t ++ " */".toList)) ++ back
    let own := front ++ (" \t".toList ++ "//".toList ++ t ++ ['\n']) ++ (line ++ back)
    '\n' ∉ t ∧ Commented t code ended ∧ Commented t code shut ∧ Commented t code own ∧
      depth code = 3 ∧ depth ended = 3 ∧ depth shut = 3 ∧ depth own = 3 := by
  intro t front line back code ended shut own
  have hfeed : '\n' ∉ t := by decide
  have hline : IsLine front line back :=
    ⟨.inr (by decide), by decide, .inr ⟨['\r', '\n'], "    f(x) \x7b\n".toList, .inr rfl, rfl⟩⟩
  have hcode : Scan.endsInCode (commentOpen front) line = true := by decide
  have hended : Commented t code ended := .behind hline hcode
  have hshut : Commented t code shut := .closed hline hcode (by decide +kernel)
  have hinserted : Inserted front (" \t".toList ++ "//".toList ++ t) (front ++ (line ++ back)) own :=
    .among hline.fresh (.inl rfl)
  have hown : Commented t code own :=
    .own (by decide) (by decide) (List.append_assoc front line back ▸ hinserted)
  have hdepth : depth code = 3 := by decide
  exact ⟨hfeed, hended, hshut, hown, hdepth, (depth_commented hfeed hended).trans hdepth,
    (depth_commented hfeed hshut).trans hdepth, (depth_commented hfeed hown).trans hdepth⟩

end Nesting

end Critique
