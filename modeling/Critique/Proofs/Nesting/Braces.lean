import Mathlib.Data.List.Infix
import Mathlib.Data.List.Induction
import Mathlib.Data.List.MinMax
import Mathlib.Order.Nat
import Critique.Nesting
import Critique.Proofs.Layout.Scan

/-!
# Braces that are open

Going over a text, the count of open braces starts again where more are closed than were opened.
`foldl_brace_eq`: its largest value is what some stretch of the text opens beyond what it closes,
and no stretch opens more. Indented blocks around the braces raise that value by no more than their
number.
-/

namespace Critique.Nesting

/-- The braces that a text opens beyond those that it closes. -/
def excess (t : Text) : Nat := t.count '{' - t.count '}'

/-- The largest excess of a stretch of a text; the empty stretch has none. -/
def mostOpen (t : Text) : Nat := ((t.tails.flatMap List.inits).map excess).foldr max 0

variable {s t : Text} {counts flat : Nat × Nat} {outer most : Nat}

theorem excess_le_mostOpen (h : s <:+: t) : excess s ≤ mostOpen t := by
  obtain ⟨tail, hs, ht⟩ := List.infix_iff_prefix_suffix.mp h
  refine List.le_max_of_le (List.mem_map_of_mem ?_) (Nat.le_refl _)
  exact List.mem_flatMap.mpr ⟨tail, (List.mem_tails _ _).mpr ht, (List.mem_inits _ _).mpr hs⟩

theorem mostOpen_le {n : Nat} (h : ∀ s, s <:+: t → excess s ≤ n) : mostOpen t ≤ n := by
  refine List.max_le_of_forall_le _ n fun v hv => ?_
  obtain ⟨s, hs, rfl⟩ := List.mem_map.mp hv
  obtain ⟨tail, ht, hs⟩ := List.mem_flatMap.mp hs
  rw [List.mem_tails] at ht
  rw [List.mem_inits] at hs
  exact h s (List.infix_iff_prefix_suffix.mpr ⟨tail, hs, ht⟩)

theorem mostOpen_eq_zero (h : '{' ∉ t) : mostOpen t = 0 := by
  refine Nat.le_zero.mp (mostOpen_le fun s hs => ?_)
  have hnone : s.count '{' = 0 := List.count_eq_zero_of_not_mem fun hc => h (hs.subset hc)
  simp [excess, hnone]

-- ---------------------------------------------------------------------------
-- Counts along a text
-- ---------------------------------------------------------------------------

/-- The counts after a text: the largest excess at its end and the largest one in it. -/
structure Tallies (t : Text) (counts : Nat × Nat) : Prop where
  end_le : ∀ s, s <:+ t → s.count '{' ≤ s.count '}' + counts.1
  end_eq : ∃ s, s <:+ t ∧ s.count '{' = s.count '}' + counts.1
  most_le : ∀ s, s <:+: t → s.count '{' ≤ s.count '}' + counts.2
  most_eq : ∃ s, s <:+: t ∧ s.count '{' = s.count '}' + counts.2

theorem tallies_nil : Tallies [] (0, 0) := by
  constructor <;> simp

theorem Tallies.end_le_most (h : Tallies t counts) : counts.1 ≤ counts.2 := by
  obtain ⟨s, hs, heq⟩ := h.end_eq
  have := h.most_le s hs.isInfix
  omega

/-- One more character, which changes the excess of all ends alike. Where none is left, the empty
end is the one with the largest excess. -/
theorem Tallies.step (h : Tallies t counts) {c : Char} {ends deepest : Nat}
    (hle : ∀ s : Text, s.count '{' ≤ s.count '}' + counts.1 →
      (s ++ [c]).count '{' ≤ (s ++ [c]).count '}' + ends)
    (heq : ends = 0 ∨ ∀ s : Text, s.count '{' = s.count '}' + counts.1 →
      (s ++ [c]).count '{' = (s ++ [c]).count '}' + ends)
    (hdeepest : deepest = max counts.2 ends) : Tallies (t ++ [c]) (ends, deepest) := by
  have hend : ∀ s, s <:+ t ++ [c] → s.count '{' ≤ s.count '}' + ends := by
    intro s hs
    rcases List.suffix_concat_iff.mp hs with rfl | ⟨front, rfl, hfront⟩
    · simp
    · exact hle front (h.end_le front hfront)
  have hsome : ∃ s, s <:+ t ++ [c] ∧ s.count '{' = s.count '}' + ends := by
    rcases heq with rfl | heq
    · exact ⟨[], List.nil_suffix, by simp⟩
    · obtain ⟨s, hs, hcount⟩ := h.end_eq
      exact ⟨s ++ [c], List.suffix_concat_iff.mpr (.inr ⟨s, rfl, hs⟩), heq s hcount⟩
  refine ⟨hend, hsome, fun s hs => ?_, ?_⟩
  · rcases List.infix_concat_iff.mp hs with hs | hs
    · have := hend s hs
      omega
    · have := h.most_le s hs
      omega
  · rcases Nat.le_total counts.2 ends with hmax | hmax
    · obtain ⟨s, hs, hcount⟩ := hsome
      exact ⟨s, hs.isInfix, by omega⟩
    · obtain ⟨s, hs, hcount⟩ := h.most_eq
      exact ⟨s, List.infix_concat_iff.mpr (.inr hs), by omega⟩

theorem brace_of_ne {c : Char} (hopen : c ≠ '{') (hclose : c ≠ '}') (outer : Nat)
    (counts : Nat × Nat) : brace outer counts c = counts := by
  unfold brace
  split
  · exact absurd rfl hopen
  · exact absurd rfl hclose
  · rfl

theorem Tallies.concat (h : Tallies t counts) (c : Char) :
    Tallies (t ++ [c]) (brace 0 counts c) := by
  have hmost := h.end_le_most
  by_cases hopen : c = '{'
  · subst hopen
    have hcount (s : Text) : (s ++ ['{']).count '{' = s.count '{' + 1 ∧
        (s ++ ['{']).count '}' = s.count '}' := by simp
    refine h.step (fun s hs => ?_) (.inr fun s hs => ?_) rfl
    · have := hcount s
      omega
    · have := hcount s
      omega
  by_cases hclose : c = '}'
  · subst hclose
    have hcount (s : Text) : (s ++ ['}']).count '{' = s.count '{' ∧
        (s ++ ['}']).count '}' = s.count '}' + 1 := by simp
    refine h.step (fun s hs => ?_) ?_ (by omega)
    · have := hcount s
      omega
    · rcases Nat.eq_zero_or_pos counts.1 with h0 | hpos
      · exact .inl (by omega)
      · exact .inr fun s hs => by have := hcount s; omega
  · have hcount (s : Text) : (s ++ [c]).count '{' = s.count '{' ∧
        (s ++ [c]).count '}' = s.count '}' := by simp [hopen, hclose]
    rw [brace_of_ne hopen hclose]
    refine h.step (fun s hs => ?_) (.inr fun s hs => ?_) (by omega)
    · rwa [(hcount s).1, (hcount s).2]
    · rwa [(hcount s).1, (hcount s).2]

theorem tallies_foldl (t : Text) : Tallies t (t.foldl (brace 0) (0, 0)) := by
  -- On the end of the text, since that is where the counts grow.
  induction t using List.reverseRecOn with
  | nil => exact tallies_nil
  | append_singleton t c ih =>
    rw [List.foldl_append]
    exact ih.concat c

theorem foldl_brace_eq (t : Text) : (t.foldl (brace 0) (0, 0)).2 = mostOpen t := by
  have h := tallies_foldl t
  refine Nat.le_antisymm ?_ (mostOpen_le fun s hs => ?_)
  · obtain ⟨s, hs, hcount⟩ := h.most_eq
    have : excess s ≤ mostOpen t := excess_le_mostOpen hs
    unfold excess at this
    omega
  · have := h.most_le s hs
    unfold excess
    omega

-- ---------------------------------------------------------------------------
-- Blanks and blocks around the braces
-- ---------------------------------------------------------------------------

theorem foldl_brace_blank (h : Text.blank t = true) : t.foldl (brace outer) counts = counts := by
  induction t with
  | nil => rfl
  | cons c t ih =>
    obtain ⟨hc, ht⟩ := Text.blank_cons.mp h
    have hopen : c ≠ '{' := Scan.ne_of_isBlank hc (by decide)
    have hclose : c ≠ '}' := Scan.ne_of_isBlank hc (by decide)
    rw [List.foldl_cons, brace_of_ne hopen hclose, ih ht]

/-- The blanks around a text hold no braces. -/
theorem foldl_brace_trim (t : Text) :
    (Text.trim t).foldl (brace outer) counts = t.foldl (brace outer) counts := by
  obtain ⟨margin, trail, hm, ht, he⟩ := Text.exists_trim t
  conv => rhs; rw [he]
  rw [List.foldl_append, List.foldl_append, foldl_brace_blank hm, foldl_brace_blank ht]

/-- Counts with as many open braces as others, whose largest value is higher by at most `most`. -/
def Raises (most : Nat) (flat counts : Nat × Nat) : Prop :=
  counts.1 = flat.1 ∧ flat.2 ≤ counts.2 ∧ counts.2 ≤ flat.2 + most

theorem Raises.brace (h : Raises most flat counts) (houter : outer ≤ most) (c : Char) :
    Raises most (brace 0 flat c) (brace outer counts c) := by
  obtain ⟨hbraces, hlow, hhigh⟩ := h
  by_cases hopen : c = '{'
  · subst hopen
    simp only [Raises, Nesting.brace]
    omega
  by_cases hclose : c = '}'
  · subst hclose
    simp only [Raises, Nesting.brace]
    omega
  · rw [brace_of_ne hopen hclose, brace_of_ne hopen hclose]
    exact ⟨hbraces, hlow, hhigh⟩

theorem Raises.foldl (h : Raises most flat counts) (houter : outer ≤ most) (t : Text) :
    Raises most (t.foldl (Nesting.brace 0) flat) (t.foldl (Nesting.brace outer) counts) := by
  induction t generalizing flat counts with
  | nil => exact h
  | cons c t ih => exact ih (h.brace houter c)

end Critique.Nesting
