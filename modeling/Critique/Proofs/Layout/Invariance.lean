import Critique.Catalog.All
import Critique.Proofs.Growth.Lines
import Critique.Proofs.Layout.Spacing

/-!
# Structure does not depend on layout

`layout_invariant`: neither a margin in front of every line nor blank lines between the lines
change how deep a submission nests, nor what the rules on its outline find. A margin does not change
the length of its functions either.
-/

namespace Critique

open Text (Spacing Spaced indented)

variable {code other margin : Text} {rule : Rule}

/-- The rule comes to the same verdict about two texts. -/
def Rule.Agrees (rule : Rule) (code other : Text) : Prop :=
  rule.matcher.verdict code (.ofCode code) = rule.matcher.verdict other (.ofCode other)

theorem Rule.agrees_of_text {holds : Text → Bool} (hm : rule.matcher = .ofText holds)
    (h : holds code = holds other) : rule.Agrees code other := by
  simp only [Agrees, hm, Matcher.ofText, Matcher.verdict, h]

/-- The rules that compare the lines of a submission with one another. -/
def Catalog.outlineRules : Catalog :=
  [recursion, nestedLoops, deepConditionals, duplicatedCode]

-- ---------------------------------------------------------------------------
-- Moved to the right
-- ---------------------------------------------------------------------------

theorem Nesting.depth_indented (hm : Spacing margin) (code : Text) :
    depth (indented margin code) = depth code := by
  have hstart : State.start.shift (Layout.indent margin) = .start := rfl
  rw [depth, Text.lines_indented hm, ← hstart, run_margin hm.blank, depth]
  rfl

theorem Metrics.longestFunction_indented (hm : Spacing margin) (code : Text) :
    longestFunction (indented margin code) = longestFunction code := by
  have hheader : isDeclaration ∘ (margin ++ ·) = isDeclaration :=
    funext (isDeclaration_margin hm.blank)
  rw [longestFunction, Text.lines_indented hm, List.map_map, hheader, longestFunction]

namespace Outline

theorem hasRecursion_indented (hm : Spacing margin) (code : Text) :
    hasRecursion (indented margin code) = hasRecursion code := by
  rw [hasRecursion, Text.lines_indented hm, someLine_margin (callsItself_margin hm.blank),
    hasRecursion]

theorem hasNested_indented (hm : Spacing margin) {header : Pattern}
    (hh : ∀ l, header.occursIn (margin ++ l) = header.occursIn l) (code : Text) :
    hasNested header (indented margin code) = hasNested header code := by
  rw [hasNested, Text.lines_indented hm, someLine_margin (holdsAnother_margin hm.blank hh),
    hasNested]

theorem hasDuplicates_indented (hm : Spacing margin) (code : Text) :
    hasDuplicates (indented margin code) = hasDuplicates code := by
  have htrim : Text.trim ∘ (margin ++ ·) = Text.trim := funext (Text.trim_blank_append hm.blank)
  rw [hasDuplicates_eq, Text.lines_indented hm, compared, List.map_map, htrim, hasDuplicates_eq,
    compared]

end Outline

open Catalog Outline in
theorem agrees_indented (hm : Spacing margin) (code : Text) :
    ∀ rule ∈ outlineRules, rule.Agrees (indented margin code) code := by
  simp only [outlineRules, List.forall_mem_cons]
  exact ⟨Rule.agrees_of_text rfl (hasRecursion_indented hm code),
    Rule.agrees_of_text rfl (hasNested_indented hm (loopHeader_margin hm.blank) code),
    Rule.agrees_of_text rfl (hasNested_indented hm (conditionalHeader_margin hm.blank) code),
    Rule.agrees_of_text rfl (hasDuplicates_indented hm code), by simp⟩

-- ---------------------------------------------------------------------------
-- Spaced out
-- ---------------------------------------------------------------------------

variable {spaced : Text}

theorem Text.Spaced.essential_lines (h : Spaced code spaced) :
    essential (lines spaced) = essential (lines code) := by
  rw [Text.essential_lines, Text.essential_lines, h.essential_pieces]

/-- What the essential lines decide is the same. -/
theorem Text.Spaced.eq_of_essential {β : Type} {f : List Text → β}
    (hf : ∀ ls, f (essential ls) = f ls) (h : Spaced code spaced) :
    f (lines spaced) = f (lines code) := by
  rw [← hf, h.essential_lines, hf]

theorem Nesting.depth_spaced (h : Spaced code spaced) : depth spaced = depth code :=
  congrArg State.deepest (h.eq_of_essential (run_essential .start))

open Catalog Outline in
theorem agrees_spaced (h : Spaced code spaced) :
    ∀ rule ∈ outlineRules, rule.Agrees spaced code := by
  simp only [outlineRules, List.forall_mem_cons]
  refine ⟨Rule.agrees_of_text rfl ?recursion, Rule.agrees_of_text rfl ?loops,
    Rule.agrees_of_text rfl ?conditionals, Rule.agrees_of_text rfl ?duplicates, by simp⟩
  case recursion =>
    exact h.eq_of_essential (someLine_essential callsItself_blank callsItself_essential)
  case loops =>
    exact h.eq_of_essential (someLine_holdsAnother_essential (by decide) loopHeader_append_blank)
  case conditionals =>
    exact h.eq_of_essential
      (someLine_holdsAnother_essential (by decide) conditionalHeader_append_blank)
  case duplicates =>
    exact congrArg hasRepeat (h.eq_of_essential compared_essential)

/-- Neither a margin of spaces and tabs in front of every line nor lines of spaces and tabs between
the lines change the nesting depth or a verdict about the outline. A margin keeps the length of the
functions too. -/
theorem layout_invariant (code : Text) :
    (∀ margin, Spacing margin →
      let moved := indented margin code
      (Metrics.ofCode moved).maxNestingDepth = (Metrics.ofCode code).maxNestingDepth ∧
      (Metrics.ofCode moved).longestFunctionLines = (Metrics.ofCode code).longestFunctionLines ∧
      ∀ rule ∈ Catalog.outlineRules, rule.Agrees moved code) ∧
    ∀ spaced, Spaced code spaced →
      (Metrics.ofCode spaced).maxNestingDepth = (Metrics.ofCode code).maxNestingDepth ∧
      ∀ rule ∈ Catalog.outlineRules, rule.Agrees spaced code :=
  ⟨fun _ hm => ⟨Nesting.depth_indented hm code, Metrics.longestFunction_indented hm code,
      agrees_indented hm code⟩,
    fun _ h => ⟨Nesting.depth_spaced h, agrees_spaced h⟩⟩

/-- Recursion is found in a method of a class as it is on its own, and across a blank line. -/
theorem layout_invariant_recursion :
    let code : Text := "def f(n):\n\tif n > 0:\n\t\treturn f(n - 1)"
    let margin : Text := "\t "
    let spaced : Text := "def f(n):\n\tif n > 0:\n  \r\n\t\treturn f(n - 1)"
    Spacing margin ∧ Spaced code spaced ∧
      Catalog.recursion.matcher.verdict code (.ofCode code) = some true ∧
      (Metrics.ofCode code).maxNestingDepth = 2 ∧
      (Metrics.ofCode (indented margin code)).maxNestingDepth = 2 ∧
      Catalog.recursion.Agrees (indented margin code) code ∧
      (Metrics.ofCode spaced).maxNestingDepth = 2 ∧ Catalog.recursion.Agrees spaced code := by
  intro code margin spaced
  have hm : Spacing margin := by decide
  have hfront : Text.Fresh "def f(n):\n\tif n > 0:\n" := .inr (by decide)
  have hspaces : Spacing "  " := by decide
  have hback : Spaced code ("def f(n):\n\tif n > 0:\n".toList ++ "\t\treturn f(n - 1)".toList) :=
    .same
  have hs : Spaced code spaced := .line hback hfront hspaces (.inr rfl)
  have hdepth : (Metrics.ofCode code).maxNestingDepth = 2 := by decide
  have hmem : Catalog.recursion ∈ Catalog.outlineRules := List.mem_cons_self
  obtain ⟨hmoved, -, hagrees⟩ := (layout_invariant code).1 margin hm
  obtain ⟨hmoved', hagrees'⟩ := (layout_invariant code).2 spaced hs
  exact ⟨hm, hs, by decide, hdepth, hmoved.trans hdepth, hagrees _ hmem, hmoved'.trans hdepth,
    hagrees' _ hmem⟩

end Critique
