import Critique.Proofs.Layout.Line
import Critique.Proofs.Layout.Scan
import Critique.Proofs.Text.Lines
import Critique.Proofs.Layout.Margin

/-!
# Blank lines between the lines

What lines say is in the lines that are not blank, up to the blanks behind them. The detectors of
structure answer for these `essential` lines what they answer for all. `Spaced.essential_pieces`:
lines of spaces and tabs, put anywhere between the lines of a text, add nothing essential.
-/

namespace Critique

open Text (blank trim trimEnd)

-- ---------------------------------------------------------------------------
-- Essential lines
-- ---------------------------------------------------------------------------

namespace Text

/-- The lines that are not blank, without the blanks behind them. -/
def essential (ls : List Text) : List Text := (ls.map trimEnd).filter (!·.isEmpty)

theorem isEmpty_trimEnd (l : Text) : (trimEnd l).isEmpty = blank l := by
  rw [Bool.eq_iff_iff]
  simp [trimEnd, blank, List.dropWhile_eq_nil_iff]

theorem essential_cons (l : Text) (ls : List Text) :
    essential (l :: ls) = if blank l then essential ls else trimEnd l :: essential ls := by
  rw [essential, List.map_cons, List.filter_cons, isEmpty_trimEnd, essential]
  cases blank l <;> rfl

theorem essential_append (ls more : List Text) :
    essential (ls ++ more) = essential ls ++ essential more := by
  rw [essential, List.map_append, List.filter_append, essential, essential]

theorem essential_of_blank {l : Text} (h : blank l = true) : essential [l] = [] := by
  rw [essential_cons, h]
  rfl

theorem essential_congr {ls more : List Text} (h : ls.map trimEnd = more.map trimEnd) :
    essential ls = essential more := by rw [essential, h, essential]

/-- What does not depend on the blanks behind a text can be asked of its trimmed end. -/
theorem of_trimEnd {β : Type} {f : Text → β}
    (h : ∀ {trail}, blank trail = true → ∀ l, f (l ++ trail) = f l) (l : Text) :
    f (trimEnd l) = f l := by
  obtain ⟨trail, ht, he⟩ := exists_trimEnd l
  conv => rhs; rw [he, h ht]

theorem trimEnd_dropCarriage (l : Text) : trimEnd (dropCarriage l) = trimEnd l := by
  by_cases h : l.getLast? = some '\r'
  · obtain ⟨front, rfl⟩ := List.getLast?_eq_some_iff.mp h
    rw [dropCarriage, if_pos h, List.dropLast_concat]
    exact (trimEnd_append_blank (by decide) front).symm
  · rw [dropCarriage_of_ne h]

theorem essential_linesOfPieces (ps : List Text) :
    essential (linesOfPieces ps) = essential ps := by
  fun_induction linesOfPieces ps with
  | case1 => rfl
  | case2 last h => rw [List.isEmpty_iff.mp h, essential_of_blank rfl, essential, List.map_nil,
      List.filter_nil]
  | case3 last h => rfl
  | case4 piece next rest ih =>
    rw [essential_cons, essential_cons piece, trimEnd_dropCarriage, ih, ← isEmpty_trimEnd,
      trimEnd_dropCarriage, isEmpty_trimEnd]

/-- Line terminators and what a text does not end in are not essential. -/
theorem essential_lines (t : Text) : essential (lines t) = essential (pieces t) :=
  essential_linesOfPieces _

-- ---------------------------------------------------------------------------
-- Texts with blank lines put in
-- ---------------------------------------------------------------------------

/-- The terminators of a line. -/
def Ends (ending : Text) : Prop := ending = ['\n'] ∨ ending = ['\r', '\n']

/-- Whether a line starts behind a text. -/
def Fresh (front : Text) : Prop := front = [] ∨ front.getLast? = some '\n'

/-- Texts that arise when lines of spaces and tabs are put into one: at the start of a line or, with
no terminator, at the end, where the last line may lack one. -/
inductive Spaced (t : Text) : Text → Prop where
  | same : Spaced t t
  | line {front back spaces ending : Text} : Spaced t (front ++ back) → Fresh front →
      Spacing spaces → Ends ending → Spaced t (front ++ (spaces ++ ending) ++ back)
  | last {front spaces : Text} : Spaced t front → Fresh front → Spacing spaces →
      Spaced t (front ++ spaces)
  | behind {front spaces ending : Text} : Spaced t front → Spacing spaces → Ends ending →
      Spaced t (front ++ ending ++ spaces)

theorem Ends.exists_eq {ending : Text} (h : Ends ending) :
    ∃ mark, blank mark = true ∧ '\n' ∉ mark ∧ ending = mark ++ ['\n'] := by
  rcases h with rfl | rfl
  · exact ⟨[], rfl, by simp, rfl⟩
  · exact ⟨['\r'], by decide, by decide, rfl⟩

/-- At the start of a line the pieces behind are on their own. -/
theorem Fresh.essential_append {front : Text} (h : Fresh front) (back : Text) :
    essential (pieces (front ++ back)) = essential (pieces front) ++ essential (pieces back) := by
  rcases h with rfl | h
  · rfl
  · obtain ⟨front, rfl⟩ := List.getLast?_eq_some_iff.mp h
    rw [List.append_assoc, List.singleton_append, pieces_append, pieces_append,
      Text.essential_append, Text.essential_append, pieces_nil, essential_of_blank rfl,
      List.append_nil]

/-- Blanks on the last line are not essential. -/
theorem essential_pieces_append {t spaces : Text} (hb : blank spaces = true)
    (hs : '\n' ∉ spaces) : essential (pieces (t ++ spaces)) = essential (pieces t) := by
  obtain ⟨ps, last, hps, hlast, rfl⟩ := exists_unlines t
  rw [List.append_assoc, pieces_unlines hps (List.not_mem_append hlast hs),
    pieces_unlines hps hlast, Text.essential_append, Text.essential_append]
  congr 1
  exact essential_congr (by simp [trimEnd_append_blank hb])

/-- Lines of spaces and tabs add nothing essential. -/
theorem Spaced.essential_pieces {t u : Text} (h : Spaced t u) :
    essential (pieces u) = essential (pieces t) := by
  have hfeed : ∀ {spaces}, Spacing spaces → '\n' ∉ spaces :=
    fun hs => hs.not_mem (by decide) (by decide)
  induction h with
  | same => rfl
  | @line front back spaces ending _ hfront hs he ih =>
    -- The terminator makes one more piece of the spaces, and that piece is blank.
    obtain ⟨mark, hmark, hfree, rfl⟩ := he.exists_eq
    have hnew : '\n' ∉ spaces ++ mark := List.not_mem_append (hfeed hs) hfree
    have hblank : blank (spaces ++ mark) = true := blank_append_of_blank hs.blank hmark
    have hpieces : pieces (spaces ++ (mark ++ ['\n']) ++ back) =
        (spaces ++ mark) :: pieces back := by
      rw [← List.append_assoc, List.append_assoc, List.singleton_append, pieces_append,
        pieces_of_not_mem hnew, List.singleton_append]
    rw [← ih, List.append_assoc, hfront.essential_append, hpieces, essential_cons, hblank,
      if_pos rfl, hfront.essential_append]
  | @last front spaces _ hfront hs ih =>
    rw [← ih, essential_pieces_append hs.blank (hfeed hs)]
  | @behind front spaces ending _ hs he ih =>
    obtain ⟨mark, hmark, hfree, rfl⟩ := he.exists_eq
    rw [← ih, ← List.append_assoc, List.append_assoc, List.singleton_append, pieces_append,
      pieces_of_not_mem (hfeed hs), Text.essential_append, essential_of_blank hs.blank,
      List.append_nil, essential_pieces_append hmark hfree]

end Text

-- ---------------------------------------------------------------------------
-- Outline
-- ---------------------------------------------------------------------------

theorem Layout.indent_trimEnd {l : Text} (h : blank l = false) : indent (trimEnd l) = indent l := by
  obtain ⟨trail, -, he⟩ := Text.exists_trimEnd l
  conv => rhs; rw [he]
  exact (indent_append (by rw [Text.blank_trimEnd, h]) trail).symm

theorem Layout.body_essential (width : Nat) (following : List Text) :
    body width (Text.essential following) = (body width following).map trimEnd := by
  induction following with
  | nil => rfl
  | cons l following ih =>
    rw [Text.essential_cons, body]
    cases h : blank l with
    | true => exact ih
    | false =>
      simp only [Bool.false_eq_true, if_false, body, Text.blank_trimEnd, h, indent_trimEnd h, ih]
      split <;> rfl

namespace Outline

theorem bodyHas_essential {property : Text → Bool} (hp : ∀ l, property (trimEnd l) = property l)
    {l : Text} (h : blank l = false) (following : List Text) :
    bodyHas property (trimEnd l) (Text.essential following) = bodyHas property l following := by
  rw [bodyHas, Layout.indent_trimEnd h, Layout.body_essential, List.any_map, bodyHas]
  exact congrArg _ (funext hp)

theorem definition?_blank {l : Text} (h : blank l = true) : definition? l = none :=
  definition?_append_blank h []

theorem callsItself_blank {l : Text} (h : blank l = true) (following : List Text) :
    callsItself l following = false := by
  rw [callsItself, definition?_blank h]

theorem callsItself_essential {l : Text} (h : blank l = false) (following : List Text) :
    callsItself (trimEnd l) (Text.essential following) = callsItself l following := by
  obtain ⟨trail, ht, he⟩ := Text.exists_trimEnd l
  have hd : definition? l = (definition? (trimEnd l)).map (Prod.map id (· ++ trail)) := by
    conv => lhs; rw [he]
    exact definition?_append_blank ht _
  rw [callsItself, callsItself, hd]
  cases hf : definition? (trimEnd l) with
  | none => rfl
  | some found =>
    have hname : IsName found.1 := isName_of_definition? hf
    simp only [Option.map_some, Prod.map_fst, Prod.map_snd, id_eq, calls_append_blank hname ht,
      bodyHas_essential (Text.of_trimEnd fun ht => calls_append_blank hname ht) h]

theorem holdsAnother_essential {header : Pattern}
    (hh : ∀ l, header.occursIn (trimEnd l) = header.occursIn l) {l : Text} (h : blank l = false)
    (following : List Text) :
    holdsAnother header (trimEnd l) (Text.essential following) =
      holdsAnother header l following := by
  rw [holdsAnother, hh, bodyHas_essential hh h, holdsAnother]

theorem someLine_essential {relation : Text → List Text → Bool}
    (hblank : ∀ {l}, blank l = true → ∀ following, relation l following = false)
    (hline : ∀ {l}, blank l = false → ∀ following,
      relation (trimEnd l) (Text.essential following) = relation l following)
    (lines : List Text) : someLine relation (Text.essential lines) = someLine relation lines := by
  induction lines with
  | nil => rfl
  | cons l lines ih =>
    rw [Text.essential_cons, someLine]
    cases h : blank l with
    | true => rw [if_pos rfl, ih, hblank h, Bool.false_or]
    | false => rw [if_neg Bool.false_ne_true, someLine, hline h, ih]

/-- A header that blanks do not make is found in the essential lines. -/
theorem someLine_holdsAnother_essential {header : Pattern} (hnil : header.occursIn [] = false)
    (hh : ∀ {trail}, blank trail = true → ∀ l, header.occursIn (l ++ trail) = header.occursIn l)
    (lines : List Text) :
    someLine (holdsAnother header) (Text.essential lines) =
      someLine (holdsAnother header) lines := by
  refine someLine_essential (fun {l} h following => ?_)
    (holdsAnother_essential (Text.of_trimEnd hh)) lines
  have hl : header.occursIn l = header.occursIn [] := hh h []
  rw [holdsAnother, hl, hnil, Bool.false_and]

/-- The lines among which a duplicate is looked for. -/
def compared (lines : List Text) : List Text :=
  (lines.map trim).filter (shortestDuplicate ≤ ·.length)

theorem hasDuplicates_eq (code : Text) :
    hasDuplicates code = hasRepeat (compared (Text.lines code)) := rfl

theorem compared_essential (lines : List Text) :
    compared (Text.essential lines) = compared lines := by
  unfold compared
  induction lines with
  | nil => rfl
  | cons l lines ih =>
    rw [Text.essential_cons]
    cases h : blank l with
    | true =>
      have hl : trim l = [] := Text.trim_append_blank h []
      rw [if_pos rfl, ih, List.map_cons, hl]
      rfl
    | false =>
      have hl : trim (trimEnd l) = trim l := Text.of_trimEnd (f := trim) Text.trim_append_blank l
      rw [if_neg Bool.false_ne_true, List.map_cons, List.filter_cons, List.map_cons,
        List.filter_cons, hl, ih]

end Outline

-- ---------------------------------------------------------------------------
-- Nesting
-- ---------------------------------------------------------------------------

namespace Nesting

theorem State.next_blank (state : State) {l : Text} (h : blank l = true) :
    state.next l = state := by
  obtain ⟨hcode, hcomment⟩ := Scan.line_of_blank h state.inComment
  simp only [next_eq, hcode, hcomment]
  rfl

theorem State.next_trimEnd (state : State) {l : Text} (h : blank l = false) :
    state.next (trimEnd l) = state.next l := by
  obtain ⟨trail, ht, he⟩ := Text.exists_trimEnd l
  obtain ⟨hcode, hcomment⟩ := Scan.line_append_blank ht state.inComment (trimEnd l)
  rw [← he] at hcode hcomment
  simp only [next_eq, hcode, hcomment, Layout.indent_trimEnd h]

theorem run_essential (state : State) (lines : List Text) :
    run state (Text.essential lines) = run state lines := by
  induction lines generalizing state with
  | nil => rfl
  | cons l lines ih =>
    rw [Text.essential_cons]
    simp only [run, List.foldl_cons] at ih ⊢
    cases h : blank l with
    | true => rw [if_pos rfl, ih, state.next_blank h]
    | false => rw [if_neg Bool.false_ne_true, List.foldl_cons, ih, state.next_trimEnd h]

end Nesting

end Critique
