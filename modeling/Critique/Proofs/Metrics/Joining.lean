import Critique.Proofs.Metrics.Declarations
import Critique.Proofs.Nesting.Joining

/-!
# Function length of joined texts

`longestFunction_joined`: a declaration at the start of the second text ends what goes on at the end
of the first one, and a text without declarations only makes the last function longer. The
terminator of the last line is not measured.
-/

namespace Critique

open Text (Ends Fresh)

variable {a b t ending : Text}

-- ---------------------------------------------------------------------------
-- Spans
-- ---------------------------------------------------------------------------

namespace Metrics

variable {declares more : List Bool}

/-- A declaration ends the spans in front of it. -/
theorem spans_append_starts (declares more : List Bool) :
    spans (declares ++ true :: more) =
      ((spans declares).1, max (spans declares).2 (spans (true :: more)).2) := by
  induction declares with
  | nil => simp [spans]
  | cons starts declares ih =>
    rw [List.cons_append, spans_cons, ih, spans_cons starts]
    cases starts with
    | false => rfl
    | true => simp only [if_true, max_right_comm]

theorem spans_of_none (h : ∀ starts ∈ declares, starts = false) :
    spans declares = (declares.length, 0) := by
  induction declares with
  | nil => rfl
  | cons starts declares ih =>
    obtain ⟨rfl, hrest⟩ := List.forall_mem_cons.mp h
    rw [spans_cons, ih hrest]
    rfl

/-- The span of a declaration that no other one follows. -/
theorem spans_starts_of_none (h : ∀ starts ∈ more, starts = false) :
    (spans (true :: more)).2 = more.length + 1 := by
  rw [spans_cons, spans_of_none h]
  simp

theorem spans_extend (declares : List Bool) {body more : List Bool}
    (hbody : ∀ starts ∈ body, starts = false) (hmore : ∀ starts ∈ more, starts = false) :
    (spans (declares ++ true :: (body ++ more))).2 =
      max (spans (declares ++ true :: body)).2 (body.length + 1 + more.length) := by
  have hboth : ∀ starts ∈ body ++ more, starts = false :=
    List.forall_mem_append.mpr ⟨hbody, hmore⟩
  simp only [spans_append_starts, spans_starts_of_none hbody, spans_starts_of_none hboth,
    List.length_append]
  omega

end Metrics

-- ---------------------------------------------------------------------------
-- The end of the last line
-- ---------------------------------------------------------------------------

theorem Text.exists_lines_ended (hne : t ≠ []) (h : t.getLast? ≠ some '\n') (he : Ends ending) :
    ∃ ls last, lines t = ls ++ [last] ∧
      (lines (t ++ ending) = ls ++ [last] ∨ lines (t ++ ending) = ls ++ [dropCarriage last]) := by
  obtain ⟨ps, last, hps, hlast, rfl⟩ := exists_unlines t
  have hlne : last ≠ [] := by
    rintro rfl
    cases ps using List.reverseRecOn <;> simp_all [unlines, line]
  refine ⟨ps.map dropCarriage, last, ?_, ?_⟩
  · rw [lines, pieces_unlines hps hlast, linesOfPieces_append _ (by simp)]
    simp [linesOfPieces, hlne]
  · have hended (mark : Text) (hm : '\n' ∉ mark) : lines (unlines ps ++ last ++ (mark ++ ['\n'])) =
        ps.map dropCarriage ++ [dropCarriage (last ++ mark)] := by
      rw [List.append_assoc, ← List.append_assoc last, lines, pieces_unlines_append _ hps,
        pieces_append, pieces_of_not_mem (List.not_mem_append hlast hm),
        linesOfPieces_append _ (by simp)]
      rfl
    rcases he with rfl | rfl
    · exact .inr (by simpa using hended [] (by simp))
    · refine .inl ((hended ['\r'] (by decide)).trans ?_)
      rw [dropCarriage, List.getLast?_concat, if_pos rfl, List.dropLast_concat]

namespace Metrics

theorem longestFunction_append_ending (h : t.getLast? ≠ some '\n') (he : Ends ending) :
    longestFunction (t ++ ending) = longestFunction t := by
  by_cases hne : t = []
  · subst hne
    rcases he with rfl | rfl <;> decide
  · obtain ⟨ls, last, hl, hended | hended⟩ := Text.exists_lines_ended hne h he
    · rw [longestFunction, hended, longestFunction, hl]
    · rw [longestFunction, hended, longestFunction, hl]
      simp only [List.map_append, List.map_cons, isDeclaration_dropCarriage]

-- ---------------------------------------------------------------------------
-- Joined texts
-- ---------------------------------------------------------------------------

theorem longestFunction_append_declaration {first : Text} {rest : List Text} (ha : Fresh a)
    (hb : Text.lines b = first :: rest) (hfirst : isDeclaration first = true) :
    longestFunction (a ++ b) = max (longestFunction a) (longestFunction b) := by
  rw [longestFunction, ha.lines_append, List.map_append, longestFunction, longestFunction, hb,
    List.map_cons, hfirst, spans_append_starts]

/-- Lines from the last declaration on, in a text that holds one. -/
def sinceLast (code : Text) : Nat :=
  ((Text.lines code).reverse.takeWhile (!isDeclaration ·)).length + 1

theorem exists_last_declaration (h : ∃ l ∈ Text.lines a, isDeclaration l = true) :
    ∃ before start body, Text.lines a = before ++ start :: body ∧ isDeclaration start = true ∧
      (∀ l ∈ body, isDeclaration l = false) ∧ sinceLast a = body.length + 1 := by
  obtain ⟨start, hfind⟩ : ∃ start, (Text.lines a).reverse.find? isDeclaration = some start := by
    rw [← Option.isSome_iff_exists, List.find?_isSome]
    simpa using h
  obtain ⟨hstart, behind, before, hlines, hbehind⟩ := List.find?_eq_some_iff_append.mp hfind
  refine ⟨before.reverse, start, behind.reverse, ?_, hstart, by simpa using hbehind, ?_⟩
  · rw [← List.reverse_reverse (Text.lines a), hlines]
    simp
  · rw [sinceLast, hlines, List.takeWhile_append_of_pos hbehind]
    simp [hstart]

theorem longestFunction_append_rest (ha : Fresh a)
    (hone : ∃ l ∈ Text.lines a, isDeclaration l = true)
    (hb : ∀ l ∈ Text.lines b, isDeclaration l = false) :
    longestFunction (a ++ b) =
      max (longestFunction a) (sinceLast a + (Text.lines b).length) := by
  obtain ⟨before, start, body, hlines, hstart, hbody, hlast⟩ := exists_last_declaration hone
  have h := spans_extend (before.map isDeclaration) (List.forall_mem_map.mpr hbody)
    (List.forall_mem_map.mpr hb)
  rw [longestFunction, ha.lines_append, longestFunction, hlines, hlast]
  simpa only [List.map_append, List.map_cons, hstart, List.length_map, List.append_assoc,
    List.cons_append] using h

/-- The longest function of joined texts, of which the first one is whole lines: if the second one
starts with a declaration it is the longer one of theirs, and if it holds none its lines belong to
the last function of the first. A terminator behind the last line changes nothing. -/
theorem longestFunction_joined :
    (∀ a b first rest, Fresh a → Text.lines b = first :: rest → isDeclaration first = true →
      longestFunction (a ++ b) = max (longestFunction a) (longestFunction b)) ∧
    (∀ a b, Fresh a → (∃ l ∈ Text.lines a, isDeclaration l = true) →
      (∀ l ∈ Text.lines b, isDeclaration l = false) →
      longestFunction (a ++ b) = max (longestFunction a) (sinceLast a + (Text.lines b).length)) ∧
    ∀ t ending : Text, t.getLast? ≠ some '\n' → Ends ending →
      longestFunction (t ++ ending) = longestFunction t :=
  ⟨fun _ _ _ _ => longestFunction_append_declaration, fun _ _ => longestFunction_append_rest,
    fun _ _ => longestFunction_append_ending⟩

/-- The first text ends in a function of three lines, the last of them empty. -/
theorem longestFunction_joined_seams :
    let a : Text := "x = 1\ndef f():\r\n  y\n\n"
    let b : Text := "def g():\n  y\n  z\n  return"
    let c : Text := "  z\r\n  return\n"
    longestFunction a = 3 ∧ longestFunction (a ++ b) = 4 ∧ longestFunction (a ++ c) = 5 ∧
      longestFunction (b ++ ['\r', '\n']) = 4 := by
  intro a b c
  obtain ⟨hstarts, hrest, hended⟩ := longestFunction_joined
  have ha : longestFunction a = 3 := by decide +kernel
  have hb : longestFunction b = 4 := by decide +kernel
  have hfresh : Fresh a := .inr (by decide)
  refine ⟨ha, ?_, ?_, ?_⟩
  · rw [hstarts a b "def g():" ["  y", "  z", "  return"] hfresh (by decide) (by decide +kernel),
      ha, hb]
    rfl
  · have hlast : sinceLast a = 3 := by decide +kernel
    rw [hrest a c hfresh (by decide +kernel) (by decide +kernel), ha, hlast]
    decide
  · rw [hended b ['\r', '\n'] (by decide) (.inr rfl), hb]

end Metrics

end Critique
