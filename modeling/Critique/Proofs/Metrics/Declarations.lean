import Critique.Proofs.Growth.Lines
import Critique.Proofs.Layout.Line
import Critique.Proofs.Pattern.Endings
import Critique.Proofs.Pattern.Matches

/-!
# Declarations that are counted and declarations that are measured

Declarations are counted in the whole text, and spans are measured between the lines that hold one.
`counted_iff_measured`: something is counted just where something is measured, unless every
declaration goes over the end of a line.
-/

namespace Critique

open Pattern in
theorem Pattern.endsBefore_name {trail : Text} : EndsBefore trail name := by
  rintro q stop hstop ⟨-, hbefore, -⟩
  obtain ⟨middle, hfirst, hrest⟩ := List.mem_flatMap.mp hstop
  obtain ⟨c, after, -, hc, rfl⟩ := of_mem_ends_one hfirst
  have hlast : stop.before.head?.any isNamePart = true := by
    rcases mayEnd_of_mem_runEnds hrest with rfl | ⟨-, hlast⟩
    · simpa using Outline.isNamePart_of_isNameStart hc
    · exact hlast
  cases hb : stop.before with
  | nil => simp [hb] at hbefore
  | cons d before =>
    rw [hb, List.head?_cons, Option.any_some] at hlast hbefore
    simp [Outline.not_isNamePart_of_isBlank hbefore] at hlast

namespace Metrics

variable {code : Text} {trail : Text}

open Pattern in
theorem declaration_endsBefore : EndsBefore trail declaration := by
  refine endsBefore_alt ?keyword ?arrow
  case keyword =>
    exact endsBefore_seq (endsBefore_seq (endsBefore_seq
      (endsBefore_seq_nothing endsBefore_name) _) _) _
  case arrow =>
    have hlast : EndsBefore trail (exactly "=>") := by
      refine endsBefore_seq (endsBefore_seq_nothing (endsBefore_one fun c hc => ?_)) _
      rw [beq_iff_eq.mp hc]
      decide
    iterate 10 refine endsBefore_seq ?_ _
    exact endsBefore_seq_nothing hlast

theorem isDeclaration_dropCarriage (l : Text) :
    isDeclaration (Text.dropCarriage l) = isDeclaration l := by
  by_cases h : l.getLast? = some '\r'
  · obtain ⟨front, rfl⟩ := List.getLast?_eq_some_iff.mp h
    rw [Text.dropCarriage, if_pos h, List.dropLast_concat]
    exact (Pattern.occursIn_extend (by decide) declaration_endsBefore front).symm
  · rw [Text.dropCarriage_of_ne h]

theorem spans_pos_iff {declares : List Bool} : 0 < (spans declares).2 ↔ true ∈ declares := by
  induction declares with
  | nil => simp [spans]
  | cons starts declares ih =>
    rw [spans_cons]
    cases starts with
    | false => simpa using ih
    | true =>
      exact ⟨fun _ => List.mem_cons_self, fun _ => Nat.lt_of_lt_of_le (Nat.succ_pos _)
        (Nat.le_max_right _ _)⟩

theorem spans_le_length (declares : List Bool) :
    (spans declares).1 ≤ declares.length ∧ (spans declares).2 ≤ declares.length := by
  induction declares with
  | nil => exact ⟨Nat.le_refl _, Nat.le_refl _⟩
  | cons starts declares ih =>
    obtain ⟨hlength, hlongest⟩ := ih
    rw [spans_cons, List.length_cons]
    cases starts with
    | false => exact ⟨Nat.succ_le_succ hlength, Nat.le_succ_of_le hlongest⟩
    | true => exact ⟨Nat.zero_le _, by simp only [if_true]; omega⟩

theorem longestFunction_le_countLines (code : Text) : longestFunction code ≤ countLines code := by
  cases code with
  | nil => exact Nat.zero_le _
  | cons c code =>
    have hspans := (spans_le_length ((Text.lines (c :: code)).map isDeclaration)).2
    rw [List.length_map] at hspans
    exact Nat.le_trans hspans (Text.length_linesOfPieces _)

/-- A declaration in a text, between the text before it and after it. -/
def Declares (code before found after : Text) : Prop :=
  code = before ++ found ++ after ∧ declaration.Matches before found after

theorem functionCount_pos_iff : 0 < (ofCode code).functionCount ↔
    ∃ before found after, Declares code before found after := by
  simp only [ofCode, Pattern.count_pos_iff, Pattern.occursIn_iff_matches, Declares]

theorem longestFunctionLines_pos_iff : 0 < (ofCode code).longestFunctionLines ↔
    ∃ before found after, Declares code before found after ∧ '\n' ∉ found := by
  have hfloats : declaration.floats = true := by decide
  simp only [ofCode, longestFunction, spans_pos_iff, List.mem_map, Declares, and_assoc]
  rw [← Pattern.exists_piece_iff hfloats]
  exact Text.exists_line_iff (by decide) isDeclaration_dropCarriage

/-- Functions are counted just where one is measured, unless every declaration goes over the end of
a line. What is measured is no longer than the text. -/
theorem counted_iff_measured (code : Text) :
    ((0 < (ofCode code).functionCount ↔ 0 < (ofCode code).longestFunctionLines) ↔
      ((∃ before found after, Declares code before found after) →
        ∃ before found after, Declares code before found after ∧ '\n' ∉ found)) ∧
    (0 < (ofCode code).longestFunctionLines → 0 < (ofCode code).functionCount) ∧
    (ofCode code).longestFunctionLines ≤ (ofCode code).lineCount := by
  rw [functionCount_pos_iff, longestFunctionLines_pos_iff]
  have hone : (∃ before found after, Declares code before found after ∧ '\n' ∉ found) →
      ∃ before found after, Declares code before found after :=
    fun ⟨before, found, after, h, _⟩ => ⟨before, found, after, h⟩
  exact ⟨⟨Iff.mp, fun h => ⟨h, hone⟩⟩, hone, longestFunction_le_countLines code⟩

/-- An arrow function on the line behind its name is counted and not measured. -/
theorem parted_declaration_unmeasured :
    let code : Text := "const handler =\n  (request) => \x7b\n    return request;\n  \x7d;\n"
    (ofCode code).functionCount = 1 ∧ (ofCode code).longestFunctionLines = 0 := by
  decide +kernel

end Metrics

end Critique
