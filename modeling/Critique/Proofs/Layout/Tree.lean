import Critique.Layout

/-!
# The tree that indentation makes

Lines are known by their positions, and `width` tells how far a line is indented; lines that count
as blank have no width. The parent of a line is the nearest one above it that is indented less.
`ancestor_iff`: a line is an ancestor of another if it is indented less than all that follow it as
far as the other.
-/

namespace Critique.Layout

structure IsParent (width : Nat → Option Nat) (p line : Nat) : Prop where
  lt : p < line
  less : ∃ v ∈ width p, ∃ w ∈ width line, v < w
  nearest : ∀ k, p < k → k < line → ∀ u ∈ width k, ∀ w ∈ width line, w ≤ u

/-- The parent of a line, its parent, and so on. -/
inductive Ancestor (width : Nat → Option Nat) : Nat → Nat → Prop where
  | parent {p line} : IsParent width p line → Ancestor width p line
  | above {above p line} : Ancestor width above p → IsParent width p line →
      Ancestor width above line

/-- All lines behind one as far as another, which is no blank one, are indented deeper. -/
def Encloses (width : Nat → Option Nat) (above line : Nat) : Prop :=
  above < line ∧ (width line).isSome ∧
    ∃ v ∈ width above, ∀ k ≤ line, above < k → ∀ u ∈ width k, v < u

variable {width : Nat → Option Nat} {above line p v w : Nat}

instance : Decidable (Encloses width above line) :=
  inferInstanceAs (Decidable (_ ∧ _ ∧ ∃ _ ∈ _, ∀ _ ≤ _, _ → _))

theorem Encloses.of_parent (h : IsParent width above line) : Encloses width above line := by
  obtain ⟨v, hv, w, hw, hlt⟩ := h.less
  refine ⟨h.lt, Option.isSome_of_mem hw, v, hv, fun k hk hak u hu => ?_⟩
  rcases Nat.lt_or_eq_of_le hk with hk | rfl
  · exact Nat.lt_of_lt_of_le hlt (h.nearest k hak hk u hu w hw)
  · rwa [Option.mem_unique hu hw]

theorem Encloses.trans (h : Encloses width above p) (hp : Encloses width p line) :
    Encloses width above line := by
  obtain ⟨hlt, -, v, hv, hdeeper⟩ := h
  obtain ⟨hlt', hsome, w, hw, hdeeper'⟩ := hp
  refine ⟨Nat.lt_trans hlt hlt', hsome, v, hv, fun k hk hak u hu => ?_⟩
  rcases Nat.lt_or_ge p k with hpk | hkp
  · exact Nat.lt_trans (hdeeper p (Nat.le_refl p) hlt w hw) (hdeeper' k hk hpk u hu)
  · exact hdeeper k hkp hak u hu

/-- A line that is indented deeper than one above it has a parent no further up. -/
theorem exists_parent (hlt : above < line) (hv : v ∈ width above) (hw : w ∈ width line)
    (hvw : v < w) : ∃ p, above ≤ p ∧ IsParent width p line := by
  -- Among the lines between, one that is indented less than `line` is nearer to it.
  generalize hd : line - above = distance
  induction distance using Nat.strongRecOn generalizing above v with
  | ind distance ih =>
    by_cases hnearer : ∃ k, above < k ∧ k < line ∧ ∃ u ∈ width k, u < w
    · obtain ⟨k, hak, hkl, u, hu, huw⟩ := hnearer
      obtain ⟨p, hkp, hp⟩ := ih (line - k) (by omega) hkl hu huw rfl
      exact ⟨p, by omega, hp⟩
    · refine ⟨above, Nat.le_refl _, hlt, ⟨v, hv, w, hw, hvw⟩, fun k hak hkl u hu w' hw' => ?_⟩
      rw [Option.mem_unique hw' hw]
      exact Nat.le_of_not_lt fun huw => hnearer ⟨k, hak, hkl, u, hu, huw⟩

theorem ancestor_of_encloses (h : Encloses width above line) : Ancestor width above line := by
  induction line using Nat.strongRecOn with
  | ind line ih =>
    obtain ⟨hlt, hsome, v, hv, hdeeper⟩ := h
    obtain ⟨w, hw⟩ := Option.isSome_iff_exists.mp hsome
    obtain ⟨p, hap, hp⟩ := exists_parent hlt hv hw (hdeeper line (Nat.le_refl _) hlt w hw)
    rcases Nat.lt_or_eq_of_le hap with hap | rfl
    · obtain ⟨u, hu, -⟩ := hp.less
      have hinner : Encloses width above p :=
        ⟨hap, Option.isSome_of_mem hu, v, hv, fun k hk => hdeeper k (by have := hp.lt; omega)⟩
      exact .above (ih p hp.lt hinner) hp
    · exact .parent hp

theorem ancestor_iff : Ancestor width above line ↔ Encloses width above line := by
  refine ⟨fun h => ?_, ancestor_of_encloses⟩
  induction h with
  | parent hp => exact .of_parent hp
  | above _ hp ih => exact ih.trans (.of_parent hp)

instance : Decidable (Ancestor width above line) := decidable_of_iff _ ancestor_iff.symm

end Critique.Layout
