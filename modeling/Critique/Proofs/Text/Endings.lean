import Critique.Proofs.Text.Lines

/-!
# Lines that end in a carriage return and a line feed

`crlf` puts a carriage return in front of every line feed. A text without carriage returns of its
own keeps its lines, the number of its pieces, and the words without line breaks that it contains.
-/

namespace Critique.Text

variable {t : Text}

/-- The text with a carriage return in front of every line feed. -/
def crlf (t : Text) : Text := t.flatMap fun c => if c = '\n' then ['\r', '\n'] else [c]

@[simp] theorem crlf_nil : crlf [] = [] := rfl

@[simp] theorem crlf_feed (t : Text) : crlf ('\n' :: t) = '\r' :: '\n' :: crlf t := rfl

theorem crlf_cons {c : Char} (h : c ≠ '\n') (t : Text) : crlf (c :: t) = c :: crlf t := by
  simp [crlf, h]

theorem length_crlf (t : Text) : (crlf t).length = t.length + t.count '\n' := by
  induction t with
  | nil => rfl
  | cons c t ih =>
    by_cases h : c = '\n'
    · subst h
      simp only [crlf_feed, List.length_cons, ih, List.count_cons_self]
      omega
    · rw [crlf_cons h, List.length_cons, ih, List.length_cons, List.count_cons_of_ne h]
      omega

theorem isEmpty_crlf (t : Text) : (crlf t).isEmpty = t.isEmpty := by
  cases t with
  | nil => rfl
  | cons c t =>
    by_cases h : c = '\n'
    · subst h
      rfl
    · rw [crlf_cons h]
      rfl

-- ---------------------------------------------------------------------------
-- Lines
-- ---------------------------------------------------------------------------

theorem crlf_append (t u : Text) : crlf (t ++ u) = crlf t ++ crlf u := List.flatMap_append

theorem crlf_of_not_mem (h : '\n' ∉ t) : crlf t = t := by
  induction t with
  | nil => rfl
  | cons c t ih =>
    obtain ⟨hc, ht⟩ := List.ne_and_not_mem_of_not_mem_cons h
    rw [crlf_cons hc.symm, ih ht]

theorem crlf_unlines {ps : List Text} (h : ∀ p ∈ ps, '\n' ∉ p) :
    crlf (unlines ps) = unlines (ps.map (· ++ ['\r'])) := by
  induction ps with
  | nil => rfl
  | cons p ps ih =>
    obtain ⟨hp, hps⟩ := List.forall_mem_cons.mp h
    have hunlines : unlines (p :: ps) = p ++ '\n' :: unlines ps := by simp [unlines, line]
    rw [hunlines, crlf_append, crlf_of_not_mem hp, crlf_feed, ih hps]
    simp [unlines, line]

/-- The pieces of a text with such ends: all but the last one keep the carriage return. -/
theorem exists_pieces_crlf (t : Text) : ∃ ps last, pieces t = ps ++ [last] ∧
    pieces (crlf t) = ps.map (· ++ ['\r']) ++ [last] := by
  obtain ⟨ps, last, hps, hlast, rfl⟩ := exists_unlines t
  refine ⟨ps, last, pieces_unlines hps hlast, ?_⟩
  have hmarked : ∀ p ∈ ps.map (· ++ ['\r']), '\n' ∉ p :=
    List.forall_mem_map.mpr fun p h => by simpa using hps p h
  rw [crlf_append, crlf_unlines hps, crlf_of_not_mem hlast, pieces_unlines hmarked hlast]

theorem length_pieces_crlf (t : Text) : (pieces (crlf t)).length = (pieces t).length := by
  obtain ⟨ps, last, hp, hc⟩ := exists_pieces_crlf t
  rw [hp, hc]
  simp

theorem lines_crlf (h : '\r' ∉ t) : lines (crlf t) = lines t := by
  obtain ⟨ps, last, hp, hc⟩ := exists_pieces_crlf t
  have hpieces : ∀ p ∈ ps, dropCarriage (p ++ ['\r']) = dropCarriage p := by
    intro p hmem
    have hpiece : p ∈ pieces t := hp ▸ List.mem_append_left _ hmem
    have hp' : '\r' ∉ p := fun hr => h ((infix_of_mem_pieces hpiece).subset hr)
    rw [dropCarriage_of_ne fun hl => hp' (List.mem_of_getLast? hl), dropCarriage,
      List.getLast?_concat, if_pos rfl, List.dropLast_concat]
  rw [lines, hc, linesOfPieces_append _ (by simp), lines, hp, linesOfPieces_append _ (by simp),
    List.map_map]
  congr 1
  exact List.map_congr_left hpieces

-- ---------------------------------------------------------------------------
-- Words
-- ---------------------------------------------------------------------------

variable {needle : Text}

theorem isPrefixOf_cons_of_not_mem {c : Char} (hne : needle ≠ []) (hc : c ∉ needle) (t : Text) :
    needle.isPrefixOf (c :: t) = false := by
  cases needle with
  | nil => exact absurd rfl hne
  | cons d needle =>
    have hd : d ≠ c := fun hd => hc (hd ▸ List.mem_cons_self)
    simp [List.isPrefixOf, hd]

theorem isPrefixOf_crlf (hr : '\r' ∉ needle) (hn : '\n' ∉ needle) (t : Text) :
    needle.isPrefixOf (crlf t) = needle.isPrefixOf t := by
  induction needle generalizing t with
  | nil => rfl
  | cons d needle ih =>
    cases t with
    | nil => rfl
    | cons c t =>
      by_cases hc : c = '\n'
      · subst hc
        rw [crlf_feed, isPrefixOf_cons_of_not_mem (List.cons_ne_nil _ _) hr,
          isPrefixOf_cons_of_not_mem (List.cons_ne_nil _ _) hn]
      · have hr := (List.ne_and_not_mem_of_not_mem_cons hr).2
        have hn := (List.ne_and_not_mem_of_not_mem_cons hn).2
        rw [crlf_cons hc, List.isPrefixOf, List.isPrefixOf, ih hr hn]

/-- A word without line breaks is contained as before. -/
theorem contains_crlf (hne : needle ≠ []) (hr : '\r' ∉ needle) (hn : '\n' ∉ needle) (t : Text) :
    contains needle (crlf t) = contains needle t := by
  induction t with
  | nil => rfl
  | cons c t ih =>
    by_cases hc : c = '\n'
    · subst hc
      rw [crlf_feed, contains, contains, contains, isPrefixOf_cons_of_not_mem hne hr,
        isPrefixOf_cons_of_not_mem hne hn, isPrefixOf_cons_of_not_mem hne hn, ih]
      rfl
    · have hprefix := isPrefixOf_crlf hr hn (c :: t)
      rw [crlf_cons hc] at hprefix ⊢
      rw [contains, hprefix, ih, contains]

end Critique.Text
