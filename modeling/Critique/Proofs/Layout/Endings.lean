import Critique.Proofs.Layout.Invariance
import Critique.Proofs.Pattern.Endings

/-!
# Structure does not depend on line ends

`endings_invariant`: a submission without carriage returns has the same metrics when all its lines
end in a carriage return and a line feed, but for the characters that this adds. The rules that
check its text or its metrics come to the same verdicts.
-/

namespace Critique

open Text (crlf)

variable {code other : Text} {rule : Rule}

namespace Metrics

theorem declaration_ignoresEnds : declaration.ignoresEnds = true := by decide

theorem typeDeclaration_ignoresEnds : typeDeclaration.ignoresEnds = true := by decide

theorem countLines_crlf (code : Text) : countLines (crlf code) = countLines code := by
  rw [countLines, Text.isEmpty_crlf, Text.length_pieces_crlf, countLines]

theorem ofCode_crlf (h : '\r' ∉ code) :
    ofCode (crlf code) =
      { ofCode code with charCount := (ofCode code).charCount + code.count '\n' } := by
  simp only [ofCode, countLines_crlf, Text.length_crlf, Nesting.depth, longestFunction,
    Text.lines_crlf h, Pattern.count_crlf declaration_ignoresEnds,
    Pattern.count_crlf typeDeclaration_ignoresEnds]

end Metrics

theorem Rule.agrees_of_metric {holds : Metrics → Bool} (hm : rule.matcher = .ofMetric holds)
    (h : holds (.ofCode code) = holds (.ofCode other)) : rule.Agrees code other := by
  simp only [Agrees, hm, Matcher.ofMetric, Matcher.verdict, h]

/-- A check of the text that only reads its lines. -/
theorem Rule.agrees_of_lines {holds : Text → Bool} (check : List Text → Bool)
    (hm : rule.matcher = .ofText holds) (hl : ∀ code, holds code = check (Text.lines code))
    (h : Text.lines code = Text.lines other) : rule.Agrees code other :=
  agrees_of_text hm (by rw [hl, h, hl])

def Matcher.isPattern : Matcher → Bool
  | .pattern _ => true
  | .text _ | .metric _ => false

namespace Catalog

theorem checks_eq : all.filter (!·.matcher.isPattern) =
    [noStrictMode, recursion, nestedLoops, deepConditionals, duplicatedCode, deepNesting,
      longMethod, longLines] := rfl

theorem lacksStrictMode_crlf (code : Text) :
    lacksStrictMode (crlf code) = lacksStrictMode code := by
  rw [lacksStrictMode, Text.contains_crlf (by decide) (by decide) (by decide), lacksStrictMode]

open Rule in
theorem checks_agree (h : '\r' ∉ code) :
    ∀ rule ∈ all.filter (!·.matcher.isPattern), rule.Agrees (crlf code) code := by
  have hlines := Text.lines_crlf h
  have hmetrics := Metrics.ofCode_crlf h
  rw [checks_eq]
  simp only [List.forall_mem_cons]
  refine ⟨agrees_of_text rfl (lacksStrictMode_crlf code),
    agrees_of_lines _ rfl (fun _ => rfl) hlines, agrees_of_lines _ rfl (fun _ => rfl) hlines,
    agrees_of_lines _ rfl (fun _ => rfl) hlines,
    agrees_of_lines (Outline.hasRepeat ∘ Outline.compared) rfl Outline.hasDuplicates_eq hlines,
    agrees_of_metric rfl (by rw [hmetrics]), agrees_of_metric rfl (by rw [hmetrics]),
    agrees_of_metric rfl (by rw [hmetrics]), by simp⟩

end Catalog

/-- With a carriage return in front of every line feed a submission that had none has the same
metrics but for its length, and all rules but the patterns judge it alike. -/
theorem endings_invariant (code : Text) (h : '\r' ∉ code) :
    Metrics.ofCode (crlf code) =
      { Metrics.ofCode code with
        charCount := (Metrics.ofCode code).charCount + code.count '\n' } ∧
    ∀ rule ∈ Catalog.all, rule.matcher.isPattern = false → rule.Agrees (crlf code) code := by
  refine ⟨Metrics.ofCode_crlf h, fun rule hrule hm => ?_⟩
  exact Catalog.checks_agree h rule (List.mem_filter.mpr ⟨hrule, by rw [hm]; rfl⟩)

/-- A declaration that goes over a line end is still one. -/
theorem endings_invariant_declaration :
    let code : Text := "def\n f(n):\n  return n\nclass A:\n  x = (a) =>\n"
    '\r' ∉ code ∧
      (Metrics.ofCode (crlf code)).functionCount = 2 ∧
      (Metrics.ofCode (crlf code)).charCount = code.length + 5 ∧
      Catalog.recursion.Agrees (crlf code) code := by
  intro code
  have h : '\r' ∉ code := by decide
  obtain ⟨hmetrics, hrules⟩ := endings_invariant code h
  refine ⟨h, ?_, ?_, ?_⟩
  · rw [hmetrics]
    decide +kernel
  · rw [hmetrics]
    rfl
  · exact hrules _ (by simp [Catalog.all]) rfl

end Critique
