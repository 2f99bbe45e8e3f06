import Critique.Proofs.Pattern.Backtracking
import Mathlib.Order.Monotone.Basic

/-!
# Counted matches

A match is counted by the indices of its start and its first end. All of them are places of the
text, so a change of the text that keeps the matches and the order of their indices keeps the count.
-/

namespace Critique

variable {t : Text}

/-- A place of a text. -/
structure Place.IsOf (t : Text) (place : Place) : Prop where
  split : place.before.reverse ++ place.after = t
  index_eq : place.index = place.before.length

namespace Place

theorem IsOf.step {index : Nat} {before after : Text} {c : Char}
    (h : IsOf t ⟨index, before, c :: after⟩) : IsOf t ⟨index + 1, c :: before, after⟩ where
  split := by simpa using h.split
  index_eq := by simpa using h.index_eq

theorem IsOf.before_eq {place : Place} (h : IsOf t place) :
    place.before.reverse = t.take place.index := by
  rw [← h.split, h.index_eq, ← List.length_reverse, List.take_left]

theorem isOf_of_mem_along {index : Nat} {before after : Text} (h : IsOf t ⟨index, before, after⟩) :
    ∀ place ∈ along index before after, IsOf t place := by
  induction after generalizing index before with
  | nil =>
    intro place hp
    rw [List.mem_singleton.mp hp]
    exact h
  | cons c after ih => exact List.forall_mem_cons.mpr ⟨h, ih h.step⟩

theorem isOf_of_mem_all {place : Place} (h : place ∈ all t) : IsOf t place :=
  isOf_of_mem_along ⟨rfl, rfl⟩ place h

end Place

namespace Pattern

theorem isOf_of_mem_runEnds {cls : Char → Bool} {index : Nat} {before after : Text} {stop : Place}
    (h : Place.IsOf t ⟨index, before, after⟩) (hs : stop ∈ runEnds cls index before after) :
    stop.IsOf t := by
  induction after generalizing index before with
  | nil =>
    rw [List.mem_singleton.mp hs]
    exact h
  | cons c after ih =>
    rcases List.mem_append.mp hs with hs | hs
    · split at hs
      · exact ih h.step hs
      · cases hs
    · rw [List.mem_singleton.mp hs]
      exact h

/-- A match ends at a place of the text. -/
theorem isOf_of_mem_ends {pattern : Pattern} {place stop : Place} (h : place.IsOf t)
    (hs : stop ∈ pattern.ends place) : stop.IsOf t := by
  induction pattern generalizing place stop with
  | nothing =>
    rw [List.mem_singleton.mp hs]
    exact h
  | one cls =>
    obtain ⟨index, before, after⟩ := place
    cases after with
    | nil => cases hs
    | cons c after =>
      simp only [ends, Place.next?] at hs
      split at hs
      · rw [List.mem_singleton.mp hs]
        exact h.step
      · cases hs
  | many cls => exact isOf_of_mem_runEnds h hs
  | here anchor =>
    simp only [ends] at hs
    split at hs
    · rw [List.mem_singleton.mp hs]
      exact h
    · cases hs
  | seq first second ihf ihs =>
    obtain ⟨middle, hf, hs⟩ := List.mem_flatMap.mp hs
    exact ihs (ihf h hf) hs
  | alt left right ihl ihr =>
    rcases List.mem_append.mp hs with hs | hs
    · exact ihl h hs
    · exact ihr h hs

/-- The indices at which the first match from a place starts and ends. -/
def spanAt (pattern : Pattern) (place : Place) : Option (Nat × Nat) :=
  (pattern.ends place).head?.map fun stop => (place.index, stop.index)

theorem count_eq (pattern : Pattern) (t : Text) :
    pattern.count t = countApart 0 ((Place.all t).filterMap pattern.spanAt) := by
  rw [count, starts_eq, Hit.among, List.map_filterMap]
  congr 2
  funext place
  simp only [spanAt, Option.map_map]
  rfl

theorem countApart_pos {spans : List (Nat × Nat)} : 0 < countApart 0 spans ↔ spans ≠ [] := by
  cases spans with
  | nil => simp [countApart]
  | cons span spans => simp [countApart]

theorem count_pos_iff {pattern : Pattern} : 0 < pattern.count t ↔ pattern.occursIn t = true := by
  rw [count_eq, countApart_pos, occursIn_iff, ne_eq, List.filterMap_eq_nil_iff]
  simp only [spanAt, Option.map_eq_none_iff, List.head?_eq_none_iff, not_forall, exists_prop, ne_eq]

/-- Only the order of the indices counts. -/
theorem countApart_map {g : Nat → Nat} (hg : StrictMono g) (reached : Nat)
    (spans : List (Nat × Nat)) :
    countApart (g reached) (spans.map (Prod.map g g)) = countApart reached spans := by
  induction spans generalizing reached with
  | nil => rfl
  | cons span spans ih =>
    obtain ⟨start, stop⟩ := span
    simp only [List.map_cons, Prod.map_apply, countApart, hg.lt_iff_lt, ih]

end Pattern

end Critique
