import Critique.Metrics
import Critique.Outline
import Critique.Proofs.Text.Lines

/-!
# What more lines can do

The detectors that read line by line, when lines follow the ones they have read: what they found is
still found, and what they measured does not get smaller. Only the body of the last headers goes on
into the lines that follow, and only behind what it held before.
-/

namespace Critique

variable {extra : List Text}

-- ---------------------------------------------------------------------------
-- Outline
-- ---------------------------------------------------------------------------

theorem Layout.body_prefix (width : Nat) (following extra : List Text) :
    body width following <+: body width (following ++ extra) := by
  induction following with
  | nil => exact List.nil_prefix
  | cons line following ih =>
    simp only [body, List.cons_append]
    split
    · exact ih
    · split
      · exact List.prefix_cons_inj line |>.mpr ih
      · exact List.prefix_refl _

namespace Outline

theorem bodyHas_append {property : Text → Bool} {line : Text} {following : List Text}
    (h : bodyHas property line following = true) :
    bodyHas property line (following ++ extra) = true := by
  obtain ⟨inner, hi, hp⟩ := List.any_eq_true.mp h
  exact List.any_eq_true.mpr ⟨inner, (Layout.body_prefix _ _ _).subset hi, hp⟩

theorem callsItself_append {line : Text} {following : List Text}
    (h : callsItself line following = true) : callsItself line (following ++ extra) = true := by
  unfold callsItself at h ⊢
  split at h
  · next name rest _ =>
    rcases Bool.or_eq_true _ _ |>.mp h with h | h
    · simp [h]
    · simp [bodyHas_append h]
  · cases h

theorem holdsAnother_append {header : Pattern} {line : Text} {following : List Text}
    (h : holdsAnother header line following = true) :
    holdsAnother header line (following ++ extra) = true := by
  obtain ⟨ho, hb⟩ := Bool.and_eq_true _ _ |>.mp h
  simp [holdsAnother, ho, bodyHas_append hb]

theorem someLine_append {relation : Text → List Text → Bool} {lines : List Text}
    (hr : ∀ {line following}, relation line following = true →
      relation line (following ++ extra) = true)
    (h : someLine relation lines = true) : someLine relation (lines ++ extra) = true := by
  induction lines with
  | nil => cases h
  | cons line following ih =>
    rcases Bool.or_eq_true _ _ |>.mp h with h | h
    · simp [someLine, hr h]
    · simp [someLine, ih h]

theorem hasRepeat_append {lines : List Text} (h : hasRepeat lines = true) :
    hasRepeat (lines ++ extra) = true := by
  induction lines with
  | nil => cases h
  | cons line rest ih =>
    rcases Bool.or_eq_true _ _ |>.mp h with h | h
    · have : line ∈ rest := by simpa using h
      simp [hasRepeat, this]
    · simp [hasRepeat, ih h]

end Outline

-- ---------------------------------------------------------------------------
-- Nesting
-- ---------------------------------------------------------------------------

namespace Nesting

theorem deepest_le_brace (outer : Nat) (counts : Nat × Nat) (c : Char) :
    counts.2 ≤ (brace outer counts c).2 := by
  unfold brace
  split
  · exact Nat.le_max_left _ _
  · exact Nat.le_refl _
  · exact Nat.le_refl _

theorem deepest_le_foldl_brace (outer : Nat) (counts : Nat × Nat) (code : Text) :
    counts.2 ≤ (code.foldl (brace outer) counts).2 := by
  induction code generalizing counts with
  | nil => exact Nat.le_refl _
  | cons c code ih => exact Nat.le_trans (deepest_le_brace outer counts c) (ih _)

theorem State.deepest_enter (state : State) (indent : Nat) (code : Text) :
    (state.enter indent code).deepest =
      let outer := (state.blocks.dropWhile (indent ≤ ·)).length
      let counts := code.foldl (brace outer) (state.braces, state.deepest)
      if opensBlock code then max counts.2 (counts.1 + (outer + 1)) else counts.2 := by
  unfold enter
  simp only
  split <;> rfl

theorem State.deepest_le_enter (state : State) (indent : Nat) (code : Text) :
    state.deepest ≤ (state.enter indent code).deepest := by
  have h := deepest_le_foldl_brace (state.blocks.dropWhile (indent ≤ ·)).length
    (state.braces, state.deepest) code
  rw [deepest_enter]
  simp only
  split
  · exact Nat.le_trans h (Nat.le_max_left _ _)
  · exact h

theorem State.deepest_le_next (state : State) (line : Text) :
    state.deepest ≤ (state.next line).deepest := by
  unfold next
  split
  next seen inComment _ =>
    simp only
    split
    · exact Nat.le_refl _
    · exact deepest_le_enter { state with inComment } _ _

theorem deepest_le_run (state : State) (lines : List Text) :
    state.deepest ≤ (run state lines).deepest := by
  induction lines generalizing state with
  | nil => exact Nat.le_refl _
  | cons line lines ih => exact Nat.le_trans (state.deepest_le_next line) (ih _)

theorem run_append (state : State) (lines more : List Text) :
    run state (lines ++ more) = run (run state lines) more := List.foldl_append

end Nesting

-- ---------------------------------------------------------------------------
-- Metrics
-- ---------------------------------------------------------------------------

namespace Metrics

theorem spans_cons (starts : Bool) (declares : List Bool) :
    spans (starts :: declares) =
      if starts then (0, max (spans declares).2 ((spans declares).1 + 1))
      else ((spans declares).1 + 1, (spans declares).2) := rfl

theorem spans_append (declares more : List Bool) :
    (spans declares).1 ≤ (spans (declares ++ more)).1 ∧
      (spans declares).2 ≤ (spans (declares ++ more)).2 := by
  induction declares with
  | nil => exact ⟨Nat.zero_le _, Nat.zero_le _⟩
  | cons starts declares ih =>
    rw [List.cons_append, spans_cons, spans_cons]
    cases starts with
    | false => exact ⟨Nat.succ_le_succ ih.1, ih.2⟩
    | true => exact ⟨Nat.le_refl _, by simp only [if_true]; omega⟩

end Metrics

end Critique
