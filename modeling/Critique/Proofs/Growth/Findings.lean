import Critique.Proofs.Assessment.Findings
import Critique.Proofs.Growth.Lines
import Critique.Proofs.Pattern.Extension

/-!
# Findings stay when lines follow

`findings_persist`: lines behind a submission take no finding away but the one that asks for
something to stand nowhere in it. Every other rule of the catalog persists, each for the reason its
matcher gives: a match stays one, lines that are related stay so, and a measure only grows.
-/

namespace Critique

variable {code : Text}

namespace Metrics

theorem maxNestingDepth_append (more : Text) (h : code.getLast? ≠ some '\r') :
    (ofCode code).maxNestingDepth ≤ (ofCode (code ++ '\n' :: more)).maxNestingDepth := by
  obtain ⟨extra, he⟩ := Text.lines_append more h
  simp only [ofCode, Nesting.depth, he, Nesting.run_append]
  exact Nesting.deepest_le_run _ extra

theorem longestFunctionLines_append (more : Text) (h : code.getLast? ≠ some '\r') :
    (ofCode code).longestFunctionLines ≤ (ofCode (code ++ '\n' :: more)).longestFunctionLines := by
  obtain ⟨extra, he⟩ := Text.lines_append more h
  simp only [ofCode, longestFunction, he, List.map_append]
  exact (spans_append _ _).2

theorem longLineCount_append (more : Text) (h : code.getLast? ≠ some '\r') :
    (ofCode code).longLineCount ≤ (ofCode (code ++ '\n' :: more)).longLineCount := by
  obtain ⟨extra, he⟩ := Text.lines_append more h
  simp [ofCode, he]

end Metrics

/-- Matches code still when lines follow it. -/
def Rule.Persists (rule : Rule) : Prop :=
  ∀ {code : Text} (more : Text), code.getLast? ≠ some '\r' →
    Catalog.matched code rule = true → Catalog.matched (code ++ '\n' :: more) rule = true

namespace Rule.Persists

variable {rule : Rule}

theorem of_pattern {pattern : Pattern} (hm : rule.matcher = .pattern pattern) : rule.Persists := by
  intro code more _ h
  simp only [Catalog.matched, hm, Matcher.verdict, beq_iff_eq, Option.some.injEq] at h ⊢
  exact Pattern.occursIn_append more h

/-- A check that only reads lines, and still holds when there are more of them. -/
theorem of_lines {holds : Text → Bool} {check : List Text → Bool}
    (hm : rule.matcher = .ofText holds) (hl : ∀ code, holds code = check (Text.lines code))
    (hc : ∀ {lines extra}, check lines = true → check (lines ++ extra) = true) :
    rule.Persists := by
  intro code more hr h
  obtain ⟨extra, he⟩ := Text.lines_append more hr
  simp only [Catalog.matched, hm, Matcher.ofText, Matcher.verdict, beq_iff_eq,
    Option.some.injEq, hl, he] at h ⊢
  exact hc h

/-- A check that a measure passes a bound, where more lines can only raise the measure. -/
theorem of_measure {measure : Metrics → Nat} {bound : Nat}
    (hm : rule.matcher = .ofMetric fun metrics => bound < measure metrics)
    (hle : ∀ {code} (more : Text), code.getLast? ≠ some '\r' →
      measure (.ofCode code) ≤ measure (.ofCode (code ++ '\n' :: more))) :
    rule.Persists := by
  intro code more hr h
  simp only [Catalog.matched, hm, Matcher.ofMetric, Matcher.verdict, beq_iff_eq,
    Option.some.injEq, decide_eq_true_eq] at h ⊢
  exact Nat.lt_of_lt_of_le h (hle more hr)

end Rule.Persists

namespace Catalog

open Outline in
theorem duplicatedCode_persists : duplicatedCode.Persists := by
  refine @Rule.Persists.of_lines _ _
    (fun lines => hasRepeat ((lines.map Text.trim).filter (shortestDuplicate ≤ ·.length)))
    rfl (fun _ => rfl) ?_
  intro lines extra h
  simp only [List.map_append, List.filter_append]
  exact hasRepeat_append h

open Rule.Persists Outline Metrics in
/-- All rules persist but the one that asks for what is missing. -/
theorem all_persist : ∀ rule ∈ all, rule.id ≠ noStrictMode.id → rule.Persists := by
  simp only [all, List.forall_mem_cons]
  refine ⟨?mutableDefaultArgument, ?bareExcept, ?globalVariableMisuse, ?wildcardImport,
    ?printDebugging, ?varUsage, ?looseEquality, ?withStatement, fun hid => absurd rfl hid,
    ?consoleLog, ?evalUsage, ?emptyCatch, ?unwrapUsage, ?unboundedGets, ?hardcodedSecret,
    ?todoComment, ?recursion, ?nestedLoops, ?deepConditionals, ?magicNumbers, ?duplicatedCode,
    ?deepNesting, ?longMethod, ?longLines, by simp⟩
  case recursion =>
    refine fun _ => of_lines rfl (fun _ => rfl) ?_
    exact someLine_append callsItself_append
  case nestedLoops =>
    exact fun _ => of_lines rfl (fun _ => rfl) (someLine_append holdsAnother_append)
  case deepConditionals =>
    exact fun _ => of_lines rfl (fun _ => rfl) (someLine_append holdsAnother_append)
  case duplicatedCode => exact fun _ => duplicatedCode_persists
  case deepNesting => exact fun _ => of_measure rfl maxNestingDepth_append
  case longMethod => exact fun _ => of_measure rfl longestFunctionLines_append
  case longLines => exact fun _ => of_measure rfl longLineCount_append
  all_goals exact fun _ => of_pattern rfl

theorem persists_of_applicable {disabled : List Text} {kind : Kind} {language : Text} {rule : Rule}
    (h : rule ∈ (all.without disabled).applicable kind language)
    (hid : rule.id ≠ noStrictMode.id) : rule.Persists :=
  all_persist rule (List.mem_of_mem_filter (List.mem_of_mem_filter h)) hid

theorem bugs_ne_noStrictMode : ∀ rule ∈ all, .bugs ∈ rule.kinds → rule.id ≠ noStrictMode.id := by
  decide

theorem id_ne_of_applicable_bugs {disabled : List Text} {language : Text} :
    ∀ rule ∈ (all.without disabled).applicable .bugs language, rule.id ≠ noStrictMode.id := by
  intro rule h
  obtain ⟨h, ha⟩ := List.mem_filter.mp h
  simp only [Rule.appliesTo, Bool.and_eq_true, List.contains_iff_mem] at ha
  exact bugs_ne_noStrictMode rule (List.mem_of_mem_filter h) ha.1

theorem findings_sublist_append {catalog : Catalog} {kind : Kind} {language : Text}
    (hp : ∀ rule ∈ catalog.applicable kind language, rule.Persists) (more : Text)
    (h : code.getLast? ≠ some '\r') :
    (catalog.assess kind code language).findings.Sublist
      (catalog.assess kind (code ++ '\n' :: more) language).findings := by
  rw [findings_assess, findings_assess]
  refine List.Sublist.map _ ?_
  have hf : (catalog.applicable kind language).filter (matched code) =
      ((catalog.applicable kind language).filter (matched (code ++ '\n' :: more))).filter
        (matched code) := by
    rw [List.filter_filter]
    refine List.filter_congr fun rule hr => ?_
    cases hm : matched code rule with
    | false => rfl
    | true => simp [hp rule hr more h hm]
  rw [hf]
  exact List.filter_sublist

/-- Lines behind a submission take no finding away but that of a missing strict mode. A search for
bugs does not ask for that one, so there they raise no score and lower no count and no risk. -/
theorem findings_persist (disabled : List Text) (code more language : Text)
    (h : code.getLast? ≠ some '\r') :
    let catalog := all.without disabled
    let longer := code ++ '\n' :: more
    (∀ kind, ∀ id ∈ (catalog.assess kind code language).ruleIds, id ≠ noStrictMode.id →
      id ∈ (catalog.assess kind longer language).ruleIds) ∧
    (∀ rule ∈ catalog.applicable .bugs language, rule.id ≠ noStrictMode.id) ∧
    let before := catalog.assess .bugs code language
    let after := catalog.assess .bugs longer language
    (∀ dimension, after.scores.get dimension ≤ before.scores.get dimension) ∧
      after.scores.overall ≤ before.scores.overall ∧
      before.risk.critical ≤ after.risk.critical ∧ before.risk.total ≤ after.risk.total ∧
      before.risk.level.rank ≤ after.risk.level.rank := by
  intro catalog longer
  have hs : (catalog.assess .bugs code language).findings.Sublist
      (catalog.assess .bugs longer language).findings :=
    findings_sublist_append
      (fun rule ha => persists_of_applicable ha (id_ne_of_applicable_bugs rule ha)) more h
  refine ⟨?_, id_ne_of_applicable_bugs, ?_, Scores.overall_le hs, Risk.critical_le hs,
    Risk.total_le hs, Risk.rank_le hs⟩
  · intro kind id hid hne
    obtain ⟨rule, ha, hm, rfl⟩ := mem_ruleIds.mp hid
    exact mem_ruleIds.mpr ⟨rule, ha, persists_of_applicable ha hne more h hm, rfl⟩
  · intro dimension
    simp only [Assessment.scores, Scores.get_ofFindings]
    exact Scores.score_le hs dimension

/-- The marker at the end of the code is still a word of its own when a line follows. -/
theorem findings_persist_todo :
    let catalog := all.without ["eval_usage"]
    let code : Text := "eval(a) # TODO"
    code.getLast? ≠ some '\r' ∧ todoComment.id ≠ noStrictMode.id ∧
      todoComment.id ∈ (catalog.assess .review code "python").ruleIds ∧
      todoComment.id ∈ (catalog.assess .review (code ++ '\n' :: "b") "python").ruleIds := by
  intro catalog code
  have h : code.getLast? ≠ some '\r' := by decide
  have hid : todoComment.id ∈ (catalog.assess .review code "python").ruleIds := by decide
  have hne : todoComment.id ≠ noStrictMode.id := by decide
  exact ⟨h, hne, hid, (findings_persist _ code "b" "python" h).1 .review _ hid hne⟩

end Catalog

end Critique
