import Critique.Proofs.Assessment.Selection
import Critique.Proofs.Report.Lines
import Mathlib.Data.List.Nodup

/-!
# Issues in a report

`heuristic_tells`: the lines of a report that is made from the rules alone tell of every finding
once, the gravest first, whatever else it shows.
-/

namespace Critique.Report

open Text (paragraph stacked)

variable {language : Text} {assessment : Assessment} {finding : Finding}

-- ---------------------------------------------------------------------------
-- Findings
-- ---------------------------------------------------------------------------

/-- The texts of a finding stay on their lines. -/
structure Orderly (finding : Finding) : Prop where
  title : '\n' ∉ title finding
  description : Quiet finding.description
  rationale : Quiet finding.rationale
  sample : ∀ sample ∈ finding.sample, Quiet sample

instance : DecidablePred Orderly := fun finding =>
  decidable_of_iff
    ('\n' ∉ title finding ∧ Quiet finding.description ∧ Quiet finding.rationale ∧
      ∀ sample ∈ finding.sample, Quiet sample)
    ⟨fun ⟨htitle, hdescription, hrationale, hsample⟩ =>
      ⟨htitle, hdescription, hrationale, hsample⟩,
      fun h => ⟨h.title, h.description, h.rationale, h.sample⟩⟩

theorem isTitle_title (finding : Finding) : isTitle (title finding) = true := by
  refine List.isPrefixOf_iff_prefix.mpr ?_
  unfold title
  rw [List.append_assoc, List.append_assoc, List.append_assoc]
  exact List.prefix_append _ _

theorem getLast?_title (finding : Finding) : (title finding).getLast? = some ')' := by
  unfold title
  rw [List.getLast?_append]
  exact Option.some_or

theorem tells_title (finding : Finding) : tells (title finding) = true := by
  simp [tells, isTitle_title]

theorem tells_heading (severity : Severity) : tells (heading severity) = true := by
  cases severity <;> decide

theorem quiet_sampleLines (hl : '\n' ∉ language) (h : ∀ sample ∈ finding.sample, Quiet sample) :
    ∀ t ∈ sampleLines language finding.sample, Quiet t := by
  cases hs : finding.sample with
  | none => simp [sampleLines]
  | some sample =>
    have hblock := quiet_block hl (h sample hs)
    exact quiet_paragraph hblock

/-- A finding is shown under its title, and what follows tells of no other one. -/
theorem stacked_findingLines (hl : '\n' ∉ language) (h : Orderly finding) :
    ∃ more, stacked (findingLines language finding) = title finding :: [] :: more ∧
      more.filter tells = [] := by
  refine ⟨stacked (paragraph finding.description ++ paragraph finding.rationale ++
    sampleLines language finding.sample), ?_, filter_stacked ?_⟩
  · have htitle : stacked (paragraph (title finding)) = [title finding, []] :=
      Text.stacked_paragraph h.title (by simp [getLast?_title])
    rw [findingLines, List.append_assoc, List.append_assoc, Text.stacked_append]
    exact congrArg₂ _ htitle rfl
  · have hsample := quiet_sampleLines hl h.sample
    exact List.forall_mem_append.mpr ⟨List.forall_mem_append.mpr
      ⟨quiet_paragraph h.description, quiet_paragraph h.rationale⟩, hsample⟩

theorem filter_stacked_findings (hl : '\n' ∉ language) {findings : List Finding}
    (h : ∀ finding ∈ findings, Orderly finding) :
    (stacked (findings.flatMap (findingLines language))).filter tells = findings.map title := by
  rw [Text.stacked_flatMap, List.filter_flatMap]
  induction findings with
  | nil => rfl
  | cons finding findings ih =>
    obtain ⟨hfinding, hfindings⟩ := List.forall_mem_cons.mp h
    obtain ⟨more, hshown, hmore⟩ := stacked_findingLines hl hfinding
    have hnil : tells [] = false := by decide
    rw [List.flatMap_cons, ih hfindings, hshown]
    simp [tells_title, hnil, hmore]

-- ---------------------------------------------------------------------------
-- Groups
-- ---------------------------------------------------------------------------

/-- Titles under the heading of their severity. -/
def group (assessment : Assessment) (severity : Severity) : List Text :=
  if (assessment.withSeverity severity).isEmpty then []
  else heading severity :: (assessment.withSeverity severity).map title

def issues (assessment : Assessment) : List Text :=
  if assessment.findings.isEmpty then [noIssues] else severities.flatMap (group assessment)

theorem stacked_severityLines (language : Text) (assessment : Assessment) (severity : Severity)
    (h : assessment.withSeverity severity ≠ []) :
    stacked (severityLines language assessment severity) = heading severity :: [] ::
      stacked ((assessment.withSeverity severity).flatMap (findingLines language)) := by
  have hheading : stacked (paragraph (heading severity)) = [heading severity, []] := by
    cases severity <;> decide
  rw [severityLines]
  simp only [List.isEmpty_iff, h, if_false]
  rw [Text.stacked_append]
  exact congrArg (· ++ _) hheading

theorem filter_severityLines (hl : '\n' ∉ language) (severity : Severity)
    (h : ∀ finding ∈ assessment.findings, Orderly finding) :
    (stacked (severityLines language assessment severity)).filter tells =
      group assessment severity := by
  by_cases hnone : assessment.withSeverity severity = []
  · simp [severityLines, group, hnone, stacked]
  · have hnil : tells [] = false := by decide
    have hgroup : ∀ finding ∈ assessment.withSeverity severity, Orderly finding :=
      fun finding hf => h finding (List.mem_of_mem_filter hf)
    rw [stacked_severityLines language assessment severity hnone, group]
    simp [tells_heading, hnil, filter_stacked_findings hl hgroup, hnone]

theorem filter_issueLines (hl : '\n' ∉ language)
    (h : ∀ finding ∈ assessment.findings, Orderly finding) :
    (stacked (issueLines language assessment)).filter tells = issues assessment := by
  unfold issueLines issues
  split
  · repeat rw [String.toList_ofList]
    decide +kernel
  · rw [Text.stacked_flatMap, List.filter_flatMap]
    exact List.flatMap_congr fun severity _ => filter_severityLines hl severity h

-- ---------------------------------------------------------------------------
-- The lines of a report
-- ---------------------------------------------------------------------------

theorem lines_heuristic (kind : Kind) (language : Text) (assessment : Assessment) :
    Text.lines (heuristic kind language assessment).body =
      stacked (openingLines kind language) ++ stacked (issueLines language assessment) ++
        stacked (closingLines kind assessment) := by
  have hbody : (heuristic kind language assessment).body =
    Text.unlines (heuristicLines kind language assessment) := rfl
  rw [hbody, Text.lines_unlines, heuristicLines_eq, Text.stacked_append, Text.stacked_append]

theorem filter_tells (kind : Kind) (hl : '\n' ∉ language)
    (h : ∀ finding ∈ assessment.findings, Orderly finding) :
    (Text.lines (heuristic kind language assessment).body).filter tells = issues assessment := by
  simp only [lines_heuristic, List.filter_append, filter_stacked (quiet_openingLines kind hl),
    filter_issueLines hl h, filter_stacked (quiet_closingLines kind assessment), List.nil_append,
    List.append_nil]

/-- Titles of the findings of some severities. -/
def titles (assessment : Assessment) (severities : List Severity) : List Text :=
  severities.flatMap fun severity => (assessment.withSeverity severity).map title

theorem filter_isTitle (ls : List Text) : ls.filter isTitle = (ls.filter tells).filter isTitle := by
  rw [List.filter_filter]
  refine List.filter_congr fun line _ => ?_
  cases h : isTitle line <;> simp [tells, h]

theorem isTitle_heading (severity : Severity) : isTitle (heading severity) = false := by
  cases severity <;> decide

theorem filter_isTitle_map (findings : List Finding) :
    (findings.map title).filter isTitle = findings.map title := by
  rw [List.filter_eq_self, List.forall_mem_map]
  exact fun finding _ => isTitle_title finding

theorem filter_isTitle_groups (assessment : Assessment) (severities : List Severity) :
    (severities.flatMap (group assessment)).filter isTitle = titles assessment severities := by
  rw [List.filter_flatMap]
  refine List.flatMap_congr fun severity _ => ?_
  unfold group
  split
  next hnone => simp [List.isEmpty_iff.mp hnone]
  next => rw [List.filter_cons, isTitle_heading, if_neg Bool.false_ne_true, filter_isTitle_map]

theorem withSeverity_of_none (h : assessment.findings = []) (severity : Severity) :
    assessment.withSeverity severity = [] := by
  rw [Assessment.withSeverity, h, List.filter_nil]

theorem filter_isTitle_issues (assessment : Assessment) :
    (issues assessment).filter isTitle = titles assessment severities := by
  unfold issues
  split
  next hnone =>
    have hgroup := withSeverity_of_none (List.isEmpty_iff.mp hnone)
    simp only [titles, hgroup]
    decide
  next => exact filter_isTitle_groups assessment severities

theorem not_mem_titles {line : Text} (h : isTitle line = false) (findings : List Finding) :
    line ∉ findings.map title := by
  rintro hm
  obtain ⟨finding, -, rfl⟩ := List.mem_map.mp hm
  exact absurd (isTitle_title finding) (by simp [h])

theorem heading_inj {severity other : Severity} :
    heading severity = heading other ↔ severity = other := by
  cases severity <;> cases other <;> decide

theorem count_group {line : Text} (h : isTitle line = false) (assessment : Assessment)
    (severity : Severity) : (group assessment severity).count line =
      if line = heading severity ∧ assessment.withSeverity severity ≠ [] then 1 else 0 := by
  unfold group
  by_cases hnone : assessment.withSeverity severity = []
  · simp [hnone]
  · rw [if_neg (by simpa using hnone), List.count_cons,
      List.count_eq_zero.mpr (not_mem_titles h _)]
    simp [hnone, beq_eq_decide, eq_comm (a := line)]

theorem count_heading_issues (assessment : Assessment) (severity : Severity) :
    (issues assessment).count (heading severity) =
      if assessment.withSeverity severity = [] then 0 else 1 := by
  unfold issues
  split
  next hnone =>
    rw [withSeverity_of_none (List.isEmpty_iff.mp hnone), if_pos rfl]
    cases severity <;> decide
  next =>
    simp only [severities, List.flatMap_cons, List.flatMap_nil, List.count_append, List.count_nil,
      count_group (isTitle_heading severity), heading_inj]
    cases severity <;> simp

theorem count_noIssues_issues (assessment : Assessment) :
    (issues assessment).count noIssues = if assessment.findings = [] then 1 else 0 := by
  have hheading (severity : Severity) : noIssues ≠ heading severity := by
    cases severity <;> decide
  unfold issues
  simp only [List.isEmpty_iff]
  split
  · decide
  · simp [severities, count_group (by decide : isTitle noIssues = false), hheading]

-- ---------------------------------------------------------------------------
-- Where a heading stands
-- ---------------------------------------------------------------------------

theorem filter_isTitle_severityLines (hl : '\n' ∉ language)
    (h : ∀ finding ∈ assessment.findings, Orderly finding) (severities : List Severity) :
    (stacked (severities.flatMap (severityLines language assessment))).filter isTitle =
      titles assessment severities := by
  rw [← filter_isTitle_groups, filter_isTitle, Text.stacked_flatMap, List.filter_flatMap]
  congr 1
  exact List.flatMap_congr fun severity _ => filter_severityLines hl severity h

theorem filter_isTitle_quiet (h : ∀ t ∈ ts, Quiet t) : (stacked ts).filter isTitle = [] := by
  rw [filter_isTitle, filter_stacked h, List.filter_nil]

theorem exists_severityLines (hl : '\n' ∉ language)
    (h : ∀ finding ∈ assessment.findings, Orderly finding) {severity : Severity}
    {first : Finding} {rest : List Finding}
    (hf : assessment.withSeverity severity = first :: rest) :
    ∃ behind, stacked (severityLines language assessment severity) =
        heading severity :: [] :: title first :: behind ∧
      behind.filter isTitle = rest.map title := by
  have horderly : ∀ finding ∈ first :: rest, Orderly finding :=
    fun finding hm => h finding (List.mem_of_mem_filter (hf ▸ hm))
  obtain ⟨hfirst, hrest⟩ := List.forall_mem_cons.mp horderly
  obtain ⟨more, hshown, hmore⟩ := stacked_findingLines hl hfirst
  refine ⟨[] :: more ++ stacked (rest.flatMap (findingLines language)), ?_, ?_⟩
  · rw [stacked_severityLines language assessment severity (hf ▸ List.cons_ne_nil _ _), hf,
      List.flatMap_cons, Text.stacked_append, hshown]
    rfl
  · have hnil : tells [] = false := by decide
    rw [filter_isTitle, List.cons_append, List.filter_cons, hnil, if_neg Bool.false_ne_true,
      List.filter_append, hmore, filter_stacked_findings hl hrest]
    exact filter_isTitle_map rest

/-- A heading stands right in front of the first finding of its severity. -/
theorem exists_heading (kind : Kind) (hl : '\n' ∉ language)
    (h : ∀ finding ∈ assessment.findings, Orderly finding) {higher lower : List Severity}
    {severity : Severity} {first : Finding} {rest : List Finding}
    (hs : severities = higher ++ severity :: lower)
    (hf : assessment.withSeverity severity = first :: rest) :
    ∃ before after, Text.lines (heuristic kind language assessment).body =
        before ++ heading severity :: [] :: title first :: after ∧
      before.filter isTitle = titles assessment higher ∧
      after.filter isTitle = rest.map title ++ titles assessment lower := by
  have hsome : ¬ assessment.findings.isEmpty := by
    intro hnone
    rw [withSeverity_of_none (List.isEmpty_iff.mp hnone)] at hf
    exact List.cons_ne_nil _ _ hf.symm
  have hlines : issueLines language assessment =
      severities.flatMap (severityLines language assessment) := if_neg hsome
  obtain ⟨behind, hshown, hbehind⟩ := exists_severityLines hl h hf
  refine ⟨stacked (openingLines kind language) ++
      stacked (higher.flatMap (severityLines language assessment)),
    behind ++ stacked (lower.flatMap (severityLines language assessment)) ++
      stacked (closingLines kind assessment), ?_, ?_, ?_⟩
  · rw [lines_heuristic, hlines, hs, List.flatMap_append, List.flatMap_cons, Text.stacked_append,
      Text.stacked_append, hshown]
    simp only [List.append_assoc, List.cons_append]
  · rw [List.filter_append, filter_isTitle_severityLines hl h,
      filter_isTitle_quiet (quiet_openingLines kind hl), List.nil_append]
  · rw [List.filter_append, List.filter_append, filter_isTitle_severityLines hl h, hbehind,
      filter_isTitle_quiet (quiet_closingLines kind assessment), List.append_nil]

-- ---------------------------------------------------------------------------
-- Findings of the catalog
-- ---------------------------------------------------------------------------

open Catalog in
theorem orderly_of_mem_all : ∀ rule ∈ Catalog.all, Orderly rule.finding := by
  unfold all mutableDefaultArgument bareExcept globalVariableMisuse wildcardImport printDebugging
    varUsage looseEquality withStatement noStrictMode consoleLog evalUsage emptyCatch unwrapUsage
    unboundedGets hardcodedSecret todoComment recursion nestedLoops deepConditionals magicNumbers
    duplicatedCode deepNesting longMethod longLines
  repeat' refine List.forall_mem_cons.mpr ⟨?_, ?_⟩
  -- A text is decided much faster as a list of characters than as a literal.
  all_goals
    repeat rw [String.toList_ofList]
    decide +kernel

theorem nodup_titles : ((Catalog.all.map Rule.finding).map title).Nodup := by
  decide +kernel

theorem findings_sublist_all (disabled : List Text) (kind : Kind) (code language : Text) :
    ((Catalog.all.without disabled).assess kind code language).findings.Sublist
      (Catalog.all.map Rule.finding) := by
  rw [Catalog.findings_assess]
  exact ((List.filter_sublist.trans List.filter_sublist).trans List.filter_sublist).map _

theorem withSeverity_perm (assessment : Assessment) :
    (severities.flatMap assessment.withSeverity).Perm assessment.findings := by
  rw [List.perm_iff_count]
  intro finding
  simp only [severities, List.flatMap_cons, List.flatMap_nil, List.count_append, List.count_nil,
    Assessment.withSeverity]
  have hcount (severity : Severity) :
      (assessment.findings.filter (·.severity = severity)).count finding =
        if finding.severity = severity then assessment.findings.count finding else 0 := by
    split
    next hs => exact List.count_filter (by simpa using hs)
    next hs => exact List.count_eq_zero.mpr fun hm => hs (by simpa using (List.mem_filter.mp hm).2)
  rw [hcount, hcount, hcount]
  cases finding.severity <;> simp

/-- Different findings have different titles, so each title stands in a report once. -/
theorem count_titles (h : assessment.findings.Sublist (Catalog.all.map Rule.finding))
    (hf : finding ∈ assessment.findings) :
    (titles assessment severities).count (title finding) = 1 := by
  have htitles : titles assessment severities =
      (severities.flatMap assessment.withSeverity).map title := (List.map_flatMap ..).symm
  have hnodup : (assessment.findings.map title).Nodup := (h.map title).nodup nodup_titles
  rw [htitles, ((withSeverity_perm assessment).map title).count_eq]
  exact List.nodup_iff_count_eq_one.mp hnodup _ (List.mem_map_of_mem hf)

/-- A report made from the rules alone names every finding in one line, the gravest findings first
and those of one severity in the order of the catalog. A severity has its heading once if something
was found, in front of its findings, and that nothing was found is said where that is so. -/
theorem heuristic_tells (disabled : List Text) (kind : Kind) (code : Text)
    (hl : '\n' ∉ language) :
    let assessment := (Catalog.all.without disabled).assess kind code language
    let shown := Text.lines (heuristic kind language assessment).body
    shown.filter isTitle = titles assessment severities ∧
    (∀ severity, ((assessment.withSeverity severity).map (·.ruleId)).Sublist
      (Catalog.all.map (·.id))) ∧
    (∀ finding ∈ assessment.findings, shown.count (title finding) = 1) ∧
    (∀ severity, shown.count (heading severity) =
      if assessment.withSeverity severity = [] then 0 else 1) ∧
    (∀ higher severity lower first rest, severities = higher ++ severity :: lower →
      assessment.withSeverity severity = first :: rest →
      ∃ before after, shown = before ++ heading severity :: [] :: title first :: after ∧
        before.filter isTitle = titles assessment higher ∧
        after.filter isTitle = rest.map title ++ titles assessment lower) ∧
    shown.count noIssues = if assessment.findings = [] then 1 else 0 := by
  intro assessment shown
  have hcatalog := findings_sublist_all disabled kind code language
  have horderly : ∀ finding ∈ assessment.findings, Orderly finding := by
    intro finding hf
    obtain ⟨rule, hrule, rfl⟩ := List.mem_map.mp (hcatalog.subset hf)
    exact orderly_of_mem_all rule hrule
  have htells : shown.filter tells = issues assessment := filter_tells kind hl horderly
  have hcount {line : Text} (ht : tells line = true) :
      shown.count line = (issues assessment).count line := by
    rw [← htells, List.count_filter ht]
  have htitles : shown.filter isTitle = titles assessment severities := by
    rw [filter_isTitle, htells, filter_isTitle_issues]
  refine ⟨htitles, fun severity => ?_, fun finding hf => ?_, fun severity => ?_,
    fun higher severity lower first rest => exists_heading kind hl horderly, ?_⟩
  · have hids : ((assessment.withSeverity severity).map (·.ruleId)).Sublist
        ((Catalog.all.map Rule.finding).map (·.ruleId)) :=
      (List.filter_sublist.trans hcatalog).map _
    rwa [List.map_map] at hids
  · rw [← List.count_filter (isTitle_title finding), htitles]
    exact count_titles hcatalog hf
  · rw [hcount (tells_heading severity), count_heading_issues]
  · rw [hcount (by decide), count_noIssues_issues]

/-- Nothing of medium severity was found, and the language looks like a title. -/
theorem heuristic_tells_two :
    let language : Text := "#### Recursion (`recursion`)"
    let code : Text := "token = 'abcd' # TODO"
    let assessment := (Catalog.all.without ["magic_numbers"]).assess .review code language
    let shown := Text.lines (heuristic .review language assessment).body
    '\n' ∉ language ∧ assessment.ruleIds = ["hardcoded_secret", "todo_comment"] ∧
      shown.filter isTitle =
        ["#### Hardcoded Secret (`hardcoded_secret`)", "#### Unresolved TODO (`todo_comment`)"] ∧
      severities.map (fun severity => shown.count (heading severity)) = [1, 0, 1] ∧
      shown.count noIssues = 0 := by
  intro language code assessment shown
  have hl : '\n' ∉ language := by decide
  obtain ⟨htitles, -, -, hheading, -, hnone⟩ := heuristic_tells ["magic_numbers"] .review code hl
  refine ⟨hl, by decide +kernel, htitles.trans (by decide +kernel), ?_,
    hnone.trans (by decide +kernel)⟩
  exact (List.map_congr_left fun severity _ => hheading severity).trans (by decide +kernel)

end Critique.Report
