import Critique.Text.Basic

/-!
# Pieces and lines of joined texts

A line feed between two texts keeps their pieces apart. The lines of a text stay its lines when more
lines follow, unless the text ends in a carriage return that would then belong to a terminator.
-/

namespace Critique.Text

theorem consPiece_ne_nil (c : Char) (ps : List Text) : consPiece c ps ≠ [] := by
  cases ps <;> simp [consPiece]

theorem consPiece_append {c : Char} {ps : List Text} (qs : List Text) (h : ps ≠ []) :
    consPiece c (ps ++ qs) = consPiece c ps ++ qs := by
  cases ps with
  | nil => exact absurd rfl h
  | cons p ps => rfl

section

variable {separator : Char}

theorem piecesAt_separator (t : Text) :
    piecesAt separator (separator :: t) = [] :: piecesAt separator t := by
  simp [piecesAt]

theorem piecesAt_cons {c : Char} (t : Text) (h : c ≠ separator) :
    piecesAt separator (c :: t) = consPiece c (piecesAt separator t) := by
  simp [piecesAt, h]

theorem piecesAt_ne_nil (separator : Char) (t : Text) : piecesAt separator t ≠ [] := by
  cases t with
  | nil => exact List.cons_ne_nil _ _
  | cons c t =>
    by_cases h : c = separator
    · rw [h, piecesAt_separator]
      exact List.cons_ne_nil _ _
    · rw [piecesAt_cons t h]
      exact consPiece_ne_nil c _

theorem piecesAt_append (a b : Text) : piecesAt separator (a ++ separator :: b) =
    piecesAt separator a ++ piecesAt separator b := by
  induction a with
  | nil => exact piecesAt_separator b
  | cons c a ih =>
    by_cases h : c = separator
    · rw [h, List.cons_append, piecesAt_separator, piecesAt_separator, ih, List.cons_append]
    · rw [List.cons_append, piecesAt_cons _ h, piecesAt_cons _ h, ih,
        consPiece_append _ (piecesAt_ne_nil separator a)]

theorem piecesAt_of_not_mem {t : Text} (h : separator ∉ t) : piecesAt separator t = [t] := by
  induction t with
  | nil => rfl
  | cons c t ih =>
    have hc : c ≠ separator := fun hc => h (hc ▸ List.mem_cons_self)
    rw [piecesAt_cons t hc, ih fun ht => h (List.mem_cons_of_mem c ht)]
    rfl

end

@[simp] theorem pieces_nil : pieces [] = [[]] := rfl

@[simp] theorem pieces_feed (t : Text) : pieces ('\n' :: t) = [] :: pieces t := rfl

theorem pieces_cons {c : Char} (t : Text) (h : c ≠ '\n') :
    pieces (c :: t) = consPiece c (pieces t) := piecesAt_cons t h

@[simp] theorem pieces_ne_nil (t : Text) : pieces t ≠ [] := piecesAt_ne_nil '\n' t

theorem pieces_append (a b : Text) : pieces (a ++ '\n' :: b) = pieces a ++ pieces b :=
  piecesAt_append a b

theorem pieces_of_not_mem {t : Text} (h : '\n' ∉ t) : pieces t = [t] := piecesAt_of_not_mem h

theorem not_mem_of_mem_pieces {t piece : Text} (h : piece ∈ pieces t) : '\n' ∉ piece := by
  induction t generalizing piece with
  | nil => simp_all
  | cons c t ih =>
    by_cases hc : c = '\n'
    · rw [hc, pieces_feed] at h
      rcases List.mem_cons.mp h with rfl | h
      · simp
      · exact ih h
    · rw [pieces_cons t hc] at h
      cases hp : pieces t with
      | nil => exact absurd hp (pieces_ne_nil t)
      | cons first rest =>
        rw [hp] at h ih
        rcases List.mem_cons.mp h with rfl | h
        · simpa [Ne.symm hc] using ih List.mem_cons_self
        · exact ih (List.mem_cons_of_mem first h)

/-- The pieces, each with the line feed that ends it, are the text; the last one has none. -/
theorem exists_pieces (t : Text) : ∃ ps last, pieces t = ps ++ [last] ∧ t = unlines ps ++ last := by
  induction t with
  | nil => exact ⟨[], [], rfl, rfl⟩
  | cons c t ih =>
    obtain ⟨ps, last, hp, ht⟩ := ih
    by_cases hc : c = '\n'
    · exact ⟨[] :: ps, last, by simp [hc, hp], by simp [hc, ht, unlines, line]⟩
    · rw [pieces_cons t hc, hp]
      cases ps with
      | nil => exact ⟨[], c :: last, rfl, by simp [ht, unlines]⟩
      | cons p ps => exact ⟨(c :: p) :: ps, last, rfl, by simp [ht, unlines, line]⟩

/-- A piece stands behind whole lines, and a line feed ends it if anything does. -/
theorem exists_of_mem_pieces {t piece : Text} (h : piece ∈ pieces t) :
    ∃ above back, t = unlines above ++ piece ++ back ∧ ∀ c ∈ back.head?, c = '\n' := by
  obtain ⟨ps, last, hp, ht⟩ := exists_pieces t
  rw [hp, List.mem_append, List.mem_singleton] at h
  rcases h with h | rfl
  · obtain ⟨above, below, rfl⟩ := List.append_of_mem h
    exact ⟨above, '\n' :: unlines below ++ last, by simp [ht, unlines, line], by simp⟩
  · exact ⟨ps, [], by simp [ht], by simp⟩

theorem infix_of_mem_pieces {t piece : Text} (h : piece ∈ pieces t) : piece <:+: t := by
  obtain ⟨above, back, ht, -⟩ := exists_of_mem_pieces h
  exact ⟨unlines above, back, ht.symm⟩

theorem pieces_unlines_append {ps : List Text} (t : Text) (h : ∀ p ∈ ps, '\n' ∉ p) :
    pieces (unlines ps ++ t) = ps ++ pieces t := by
  induction ps with
  | nil => rfl
  | cons p ps ih =>
    obtain ⟨hp, hps⟩ := List.forall_mem_cons.mp h
    have happ : unlines (p :: ps) ++ t = p ++ '\n' :: (unlines ps ++ t) := by
      simp [unlines, line]
    rw [happ, pieces_append, pieces_of_not_mem hp, ih hps]
    rfl

theorem pieces_unlines {ps : List Text} {last : Text} (h : ∀ p ∈ ps, '\n' ∉ p)
    (hlast : '\n' ∉ last) : pieces (unlines ps ++ last) = ps ++ [last] := by
  rw [pieces_unlines_append _ h, pieces_of_not_mem hlast]

theorem mem_pieces {above : List Text} {piece back : Text} (habove : ∀ p ∈ above, '\n' ∉ p)
    (hpiece : '\n' ∉ piece) (hback : ∀ c ∈ back.head?, c = '\n') :
    piece ∈ pieces (unlines above ++ (piece ++ back)) := by
  rw [pieces_unlines_append _ habove]
  refine List.mem_append_right _ ?_
  cases back with
  | nil => simp [pieces_of_not_mem hpiece]
  | cons c back =>
    obtain rfl : c = '\n' := hback c rfl
    simp [pieces_append, pieces_of_not_mem hpiece]

/-- A text is whole lines and what is behind the last line feed. -/
theorem exists_unlines (t : Text) :
    ∃ ps last, (∀ p ∈ ps, '\n' ∉ p) ∧ '\n' ∉ last ∧ t = unlines ps ++ last := by
  obtain ⟨ps, last, hp, ht⟩ := exists_pieces t
  have hfree : ∀ p ∈ ps ++ [last], '\n' ∉ p := fun p h => not_mem_of_mem_pieces (hp ▸ h)
  exact ⟨ps, last, fun p h => hfree p (List.mem_append_left _ h), hfree last (by simp), ht⟩

/-- A text is what is in front of its first line feed, and the rest. -/
theorem exists_restOfLine (t : Text) :
    ∃ line back, t = line ++ back ∧ '\n' ∉ line ∧ ∀ c ∈ back.head?, c = '\n' := by
  refine ⟨t.takeWhile (· != '\n'), t.dropWhile (· != '\n'), List.takeWhile_append_dropWhile.symm,
    fun h => by simpa using List.all_eq_true.mp List.all_takeWhile _ h, fun c hc => ?_⟩
  have hstop := List.head?_dropWhile_not (· != '\n') t
  rw [show (t.dropWhile (· != '\n')).head? = some c from hc] at hstop
  simpa using hstop

theorem linesOfPieces_append (ps : List Text) {qs : List Text} (h : qs ≠ []) :
    linesOfPieces (ps ++ qs) = ps.map dropCarriage ++ linesOfPieces qs := by
  induction ps with
  | nil => rfl
  | cons p ps ih =>
    cases hr : ps ++ qs with
    | nil => simp_all
    | cons next rest => simp [linesOfPieces, hr, ← ih]

theorem dropCarriage_of_ne {t : Text} (h : t.getLast? ≠ some '\r') : dropCarriage t = t := by
  simp [dropCarriage, h]

/-- The lines of a text, and behind them what lines that follow a line feed add. -/
theorem lines_append {a : Text} (b : Text) (h : a.getLast? ≠ some '\r') :
    ∃ extra, lines (a ++ '\n' :: b) = lines a ++ extra := by
  obtain ⟨ps, last, hp, ht⟩ := exists_pieces a
  refine ⟨(if last.isEmpty then [[]] else []) ++ lines b, ?_⟩
  have hlast : dropCarriage last = last := by
    cases hl : last.getLast? with
    | none => exact dropCarriage_of_ne (by simp [hl])
    | some c => exact dropCarriage_of_ne (by rw [ht] at h; simpa [hl] using h)
  rw [lines, pieces_append, hp, linesOfPieces_append _ (pieces_ne_nil b), lines, hp,
    linesOfPieces_append ps (by simp)]
  cases last <;> simp [linesOfPieces, hlast, lines]

/-- A property that carriage returns at the end do not matter to is one of a line if of a piece. -/
theorem exists_line_iff {t : Text} {p : Text → Bool} (hnil : p [] = false)
    (hcarriage : ∀ l, p (dropCarriage l) = p l) :
    (∃ l ∈ lines t, p l = true) ↔ ∃ piece ∈ pieces t, p piece = true := by
  rw [lines]
  fun_induction linesOfPieces (pieces t) with
  | case1 => rfl
  | case2 last h => simp [List.isEmpty_iff.mp h, hnil]
  | case3 last h => rfl
  | case4 piece next rest ih =>
    simp only [List.mem_cons, exists_eq_or_imp, hcarriage] at ih ⊢
    rw [ih]

theorem length_linesOfPieces (ps : List Text) : (linesOfPieces ps).length ≤ ps.length := by
  fun_induction linesOfPieces ps with
  | case1 | case3 => exact Nat.le_refl _
  | case2 => exact Nat.zero_le _
  | case4 piece next rest ih => exact Nat.succ_le_succ ih

end Critique.Text
