import Critique.Proofs.Assessment.Findings
import Critique.Service.Basic

/-!
# Selections of rules

An assessment asks the rules that are left, apply to the kind of analysis and have the language in
their scope, one by one and in the order of the catalog. `disabling_projects`: rules that are left
out take their own findings away and nothing else. `kinds_agree`: a review finds what a search for
bugs finds and more, but nothing more of high severity, and a language that no rule names is left
with a part of the findings of every other.
-/

namespace Critique

/-- Nothing that counts is worse: no score is lower, no count greater and the risk no higher. -/
structure Assessment.Milder (mild grave : Assessment) : Prop where
  score : ∀ dimension, grave.scores.get dimension ≤ mild.scores.get dimension
  overall : grave.scores.overall ≤ mild.scores.overall
  critical : mild.risk.critical ≤ grave.risk.critical
  total : mild.risk.total ≤ grave.risk.total
  level : mild.risk.level.rank ≤ grave.risk.level.rank

theorem Assessment.milder_of_sublist {mild grave : Assessment}
    (h : mild.findings.Sublist grave.findings) : mild.Milder grave where
  score dimension := by
    simp only [Assessment.scores, Scores.get_ofFindings]
    exact Scores.score_le h dimension
  overall := Scores.overall_le h
  critical := Risk.critical_le h
  total := Risk.total_le h
  level := Risk.rank_le h

namespace Catalog

variable {catalog : Catalog} {disabled : List Text} {kind wide : Kind} {code language other : Text}

-- ---------------------------------------------------------------------------
-- Fewer rules
-- ---------------------------------------------------------------------------

theorem filter_sublist_filter {rules : List Rule} {p q : Rule → Bool}
    (h : ∀ rule ∈ rules, p rule = true → q rule = true) :
    (rules.filter p).Sublist (rules.filter q) := by
  have hself : (rules.filter p).filter q = rules.filter p := by
    rw [List.filter_eq_self]
    intro rule hr
    obtain ⟨hr, hp⟩ := List.mem_filter.mp hr
    exact h rule hr hp
  rw [← hself]
  exact List.filter_sublist.filter q

theorem findings_sublist {fewer : Catalog}
    (h : (fewer.applicable kind language).Sublist (catalog.applicable wide other)) :
    (fewer.assess kind code language).findings.Sublist
      (catalog.assess wide code other).findings := by
  rw [findings_assess, findings_assess]
  exact (h.filter _).map _

theorem findings_sublist_of_applies
    (h : ∀ rule ∈ catalog, rule.appliesTo kind language = true → rule.appliesTo wide other = true) :
    (catalog.assess kind code language).findings.Sublist
      (catalog.assess wide code other).findings :=
  findings_sublist (filter_sublist_filter h)

-- ---------------------------------------------------------------------------
-- Rules that are left out
-- ---------------------------------------------------------------------------

theorem applicable_without :
    (catalog.without disabled).applicable kind language =
      without (catalog.applicable kind language) disabled := by
  simp only [applicable, without, List.filter_filter, Bool.and_comm]

theorem findings_without :
    ((catalog.without disabled).assess kind code language).findings =
      (catalog.assess kind code language).findings.filter (·.ruleId ∉ disabled) := by
  rw [findings_assess, findings_assess, applicable_without, List.filter_map, without,
    List.filter_comm]
  congr 2
  funext rule
  show (!disabled.contains rule.id) = decide (rule.finding.ruleId ∉ disabled)
  rw [List.contains_eq_mem, decide_not]
  rfl

theorem without_congr {ids : List Text}
    (h : ∀ rule ∈ catalog, rule.id ∈ disabled ↔ rule.id ∈ ids) :
    catalog.without ids = catalog.without disabled := by
  refine List.filter_congr fun rule hr => ?_
  simp [h rule hr]

theorem without_sublist {larger : List Text}
    (h : ∀ rule ∈ catalog, rule.id ∈ disabled → rule.id ∈ larger) :
    (catalog.without larger).Sublist (catalog.without disabled) := by
  refine filter_sublist_filter fun rule hr hkept => ?_
  simp only [Bool.not_eq_true', List.contains_eq_mem, decide_eq_false_iff_not] at hkept ⊢
  exact mt (h rule hr) hkept

theorem get?_eq_none_iff {id : Text} : catalog.get? id = none ↔ id ∉ catalog.map Rule.id := by
  rw [get?, List.find?_eq_none, List.mem_map]
  simp

theorem unknown_eq : catalog.unknown disabled = disabled.filter (· ∉ catalog.map Rule.id) := by
  refine List.filter_congr fun id _ => ?_
  rw [Bool.eq_iff_iff, Option.isNone_iff_eq_none, get?_eq_none_iff, decide_eq_true_iff]

/-- Rules that are left out take their own findings away; metrics, order, and what the other
findings come to stay. So an assessment depends on the ids of the catalog that are listed alone, and
more of them make it milder. Each listed id that no rule has is warned of where it stands. -/
theorem disabling_projects (disabled : List Text) (kind : Kind) (code language : Text) :
    let full := all.assess kind code language
    let kept := full.findings.filter (·.ruleId ∉ disabled)
    let reduced := (all.without disabled).assess kind code language
    reduced.metrics = full.metrics ∧ reduced.findings = kept ∧
    reduced.scores = .ofFindings kept ∧ reduced.risk = .ofFindings kept ∧
    (∀ ids, (∀ rule ∈ all, rule.id ∈ disabled ↔ rule.id ∈ ids) →
      (all.without ids).assess kind code language = reduced) ∧
    (∀ larger, (∀ rule ∈ all, rule.id ∈ disabled → rule.id ∈ larger) →
      ((all.without larger).assess kind code language).Milder reduced) ∧
    ∀ settings : Settings, Service.settingsWarnings { settings with disabledRules := disabled } =
      (disabled.filter (· ∉ all.map Rule.id)).map Warning.unknownRule ++
        Service.tokenWarnings settings.generation := by
  intro full kept reduced
  have hkept : reduced.findings = kept := findings_without
  refine ⟨rfl, hkept, congrArg Scores.ofFindings hkept, congrArg Risk.ofFindings hkept, ?_, ?_, ?_⟩
  · intro ids h
    rw [without_congr h]
  · intro larger h
    refine Assessment.milder_of_sublist (findings_sublist ?_)
    exact (without_sublist h).filter _
  · intro settings
    rw [Service.settingsWarnings, unknown_eq]

/-- Two ids of four are unknown, and the other two are the same. -/
theorem disabling_projects_eval :
    let disabled : List Text := ["nope", "eval_usage", "eval_usage", "nope"]
    let ids : List Text := ["eval_usage", "other"]
    let larger : List Text := ["todo_comment", "eval_usage"]
    let code : Text := "eval(a) # TODO"
    let reduced := (all.without disabled).assess .review code "python"
    (all.assess .review code "python").ruleIds = [evalUsage.id, todoComment.id] ∧
    reduced.ruleIds = [todoComment.id] ∧
    (∀ rule ∈ all, rule.id ∈ disabled ↔ rule.id ∈ ids) ∧
    (all.without ids).assess .review code "python" = reduced ∧
    (∀ rule ∈ all, rule.id ∈ disabled → rule.id ∈ larger) ∧
    ((all.without larger).assess .review code "python").Milder reduced ∧
    Service.settingsWarnings { Settings.default with disabledRules := disabled } =
      [.unknownRule "nope", .unknownRule "nope", .noToken "HF_TOKEN"] := by
  intro disabled ids larger code reduced
  have hids : ∀ rule ∈ all, rule.id ∈ disabled ↔ rule.id ∈ ids := by decide
  have hlarger : ∀ rule ∈ all, rule.id ∈ disabled → rule.id ∈ larger := by decide
  obtain ⟨-, -, -, -, hsame, hmilder, hwarns⟩ :=
    disabling_projects disabled .review code "python"
  refine ⟨by decide, by decide, hids, hsame ids hids, hlarger, hmilder larger hlarger, ?_⟩
  rw [hwarns]
  decide

-- ---------------------------------------------------------------------------
-- Other kinds and languages
-- ---------------------------------------------------------------------------

theorem appliesTo_iff {rule : Rule} :
    rule.appliesTo kind language = true ↔ kind ∈ rule.kinds ∧ rule.inScope language = true := by
  simp [Rule.appliesTo]

theorem withSeverity_congr {severity : Severity}
    (h : ∀ rule ∈ catalog, rule.severity = severity →
      rule.appliesTo kind language = rule.appliesTo wide other) :
    (catalog.assess kind code language).withSeverity severity =
      (catalog.assess wide code other).withSeverity severity := by
  simp only [Assessment.withSeverity, findings_assess, List.filter_map, applicable,
    List.filter_filter]
  congr 1
  refine List.filter_congr fun rule hr => ?_
  by_cases hs : rule.severity = severity
  · rw [h rule hr hs]
  · simp [Rule.finding, hs]

theorem review_of_bugs : ∀ rule ∈ all, .bugs ∈ rule.kinds → .review ∈ rule.kinds := by
  decide

theorem bugs_of_review_of_high :
    ∀ rule ∈ all, rule.severity = .high → .review ∈ rule.kinds → .bugs ∈ rule.kinds := by
  decide

theorem review_of_optimize : ∀ rule ∈ all, .optimize ∈ rule.kinds → rule.id ≠ recursion.id →
    rule.id ≠ deepConditionals.id → .review ∈ rule.kinds := by
  decide

theorem mem_all_of_mem_without {rule : Rule} (h : rule ∈ all.without disabled) : rule ∈ all :=
  List.mem_of_mem_filter h

theorem findings_bugs_sublist :
    ((all.without disabled).assess .bugs code language).findings.Sublist
      ((all.without disabled).assess .review code language).findings := by
  refine findings_sublist_of_applies fun rule hr ha => ?_
  obtain ⟨hk, hs⟩ := appliesTo_iff.mp ha
  exact appliesTo_iff.mpr ⟨review_of_bugs rule (mem_all_of_mem_without hr) hk, hs⟩

theorem high_bugs_eq :
    ((all.without disabled).assess .bugs code language).withSeverity .high =
      ((all.without disabled).assess .review code language).withSeverity .high := by
  refine withSeverity_congr fun rule hr hs => ?_
  replace hr := mem_all_of_mem_without hr
  rw [Bool.eq_iff_iff, appliesTo_iff, appliesTo_iff]
  exact and_congr_left fun _ => ⟨review_of_bugs rule hr, bugs_of_review_of_high rule hr hs⟩

theorem mem_review_of_mem_optimize {finding : Finding}
    (h : finding ∈ ((all.without disabled).assess .optimize code language).findings)
    (hr : finding.ruleId ≠ recursion.id) (hd : finding.ruleId ≠ deepConditionals.id) :
    finding ∈ ((all.without disabled).assess .review code language).findings := by
  rw [findings_assess] at h ⊢
  obtain ⟨rule, hrule, rfl⟩ := List.mem_map.mp h
  obtain ⟨happlicable, hm⟩ := List.mem_filter.mp hrule
  obtain ⟨hmem, ha⟩ := List.mem_filter.mp happlicable
  obtain ⟨hk, hs⟩ := appliesTo_iff.mp ha
  have hreview := review_of_optimize rule (mem_all_of_mem_without hmem) hk hr hd
  exact List.mem_map_of_mem
    (List.mem_filter.mpr ⟨List.mem_filter.mpr ⟨hmem, appliesTo_iff.mpr ⟨hreview, hs⟩⟩, hm⟩)

theorem findings_unnamed_sublist (h : ∀ rule ∈ catalog, language ∉ rule.languages) :
    (catalog.assess kind code language).findings.Sublist
      (catalog.assess kind code other).findings := by
  refine findings_sublist_of_applies fun rule hr ha => ?_
  obtain ⟨hk, hs⟩ := appliesTo_iff.mp ha
  refine appliesTo_iff.mpr ⟨hk, ?_⟩
  have hall : rule.languages.isEmpty = true := by simpa [Rule.inScope, h rule hr] using hs
  simp [Rule.inScope, hall]

/-- A review finds all that a search for bugs finds, and nothing more of high severity, so it is the
graver of the two. All but two of the rules that a search for slow code asks are asked in a review.
A language that no rule names has only findings that every language has. -/
theorem kinds_agree (disabled : List Text) (code language : Text) :
    let catalog := all.without disabled
    let review := catalog.assess .review code language
    let bugs := catalog.assess .bugs code language
    bugs.findings.Sublist review.findings ∧
    bugs.withSeverity .high = review.withSeverity .high ∧
    bugs.risk.critical = review.risk.critical ∧
    (∀ finding ∈ (catalog.assess .optimize code language).findings,
      finding.ruleId ≠ recursion.id → finding.ruleId ≠ deepConditionals.id →
        finding ∈ review.findings) ∧
    bugs.Milder review ∧
    ∀ unnamed, (∀ rule ∈ catalog, unnamed ∉ rule.languages) → ∀ kind,
      (catalog.assess kind code unnamed).findings.Sublist
        (catalog.assess kind code language).findings := by
  intro catalog review bugs
  refine ⟨findings_bugs_sublist, high_bugs_eq, ?_, ?_, ?_, ?_⟩
  · rw [Assessment.critical_risk, Assessment.critical_risk, high_bugs_eq]
  · intro finding h hr hd
    exact mem_review_of_mem_optimize h hr hd
  · exact Assessment.milder_of_sublist findings_bugs_sublist
  · intro unnamed h kind
    exact findings_unnamed_sublist h

/-- Nested loops are found in a review as in a search for slow code, and in every language. -/
theorem kinds_agree_loops :
    let catalog := all.without ["todo_comment"]
    let code : Text := "for a in b:\n for c in d:"
    let review := catalog.assess .review code "python"
    nestedLoops.finding ∈ (catalog.assess .optimize code "python").findings ∧
    nestedLoops.id ≠ recursion.id ∧ nestedLoops.id ≠ deepConditionals.id ∧
    nestedLoops.finding ∈ review.findings ∧
    (∀ rule ∈ catalog, "klingon".toList ∉ rule.languages) ∧
    (catalog.assess .review code "klingon").ruleIds = [nestedLoops.id] ∧
    (catalog.assess .review code "klingon").findings.Sublist review.findings := by
  intro catalog code review
  have hslow : nestedLoops.finding ∈ (catalog.assess .optimize code "python").findings := by
    decide +kernel
  have hr : nestedLoops.id ≠ recursion.id := by decide
  have hd : nestedLoops.id ≠ deepConditionals.id := by decide
  have hunnamed : ∀ rule ∈ catalog, "klingon".toList ∉ rule.languages := by decide
  obtain ⟨-, -, -, hreview, -, hsub⟩ := kinds_agree ["todo_comment"] code "python"
  exact ⟨hslow, hr, hd, hreview _ hslow hr hd, hunnamed, by decide, hsub _ hunnamed .review⟩

end Catalog

end Critique
