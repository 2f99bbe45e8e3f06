import Critique.Assessment
import Mathlib.Algebra.Order.BigOperators.Group.List
import Mathlib.Algebra.Order.Group.Nat

/-!
# Findings, scores and risk

Findings are the rules that matched, in the order of the catalog. More findings never raise a score
and never lower a count or the level of risk.
-/

namespace Critique

-- ---------------------------------------------------------------------------
-- Rules that matched
-- ---------------------------------------------------------------------------

namespace Catalog

/-- Whether the rule comes to the decision that the code has its problem. -/
def matched (code : Text) (rule : Rule) : Bool :=
  rule.matcher.verdict code (Metrics.ofCode code) == some true

theorem findings_assess (catalog : Catalog) (kind : Kind) (code language : Text) :
    (catalog.assess kind code language).findings =
      ((catalog.applicable kind language).filter (matched code)).map Rule.finding := by
  simp only [assess, findings, verdicts, List.filter_map, List.map_map]
  rfl

theorem mem_ruleIds {catalog : Catalog} {kind : Kind} {code language id : Text} :
    id ∈ (catalog.assess kind code language).ruleIds ↔
      ∃ rule ∈ catalog.applicable kind language, matched code rule ∧ rule.id = id := by
  simp only [Assessment.ruleIds, findings_assess, List.mem_map, List.mem_filter, Rule.finding]
  constructor
  · rintro ⟨_, ⟨rule, ⟨ha, hm⟩, rfl⟩, hid⟩
    exact ⟨rule, ha, hm, hid⟩
  · rintro ⟨rule, ha, hm, hid⟩
    exact ⟨_, ⟨rule, ⟨ha, hm⟩, rfl⟩, hid⟩

end Catalog

-- ---------------------------------------------------------------------------
-- More findings
-- ---------------------------------------------------------------------------

variable {fewer more : List Finding}

namespace Scores

theorem get_ofFindings (findings : List Finding) (dimension : Dimension) :
    (ofFindings findings).get dimension = score findings dimension := by
  cases dimension <;> rfl

theorem penalty_le (h : fewer.Sublist more) (dimension : Dimension) :
    penalty fewer dimension ≤ penalty more dimension :=
  ((h.filter _).map _).sum_le_sum fun _ _ => Nat.zero_le _

theorem score_le (h : fewer.Sublist more) (dimension : Dimension) :
    score more dimension ≤ score fewer dimension :=
  Nat.sub_le_sub_left (penalty_le h dimension) full

theorem overall_le (h : fewer.Sublist more) :
    (ofFindings more).overall ≤ (ofFindings fewer).overall := by
  have h1 := score_le h .maintainability
  have h2 := score_le h .readability
  have h3 := score_le h .efficiency
  have h4 := score_le h .bestPractices
  simp only [overall, ofFindings]
  omega

end Scores

namespace Risk

theorem critical_le (h : fewer.Sublist more) :
    (ofFindings fewer).critical ≤ (ofFindings more).critical := h.countP_le

theorem warnings_le (h : fewer.Sublist more) :
    (ofFindings fewer).warnings ≤ (ofFindings more).warnings := h.countP_le

theorem total_le (h : fewer.Sublist more) : (ofFindings fewer).total ≤ (ofFindings more).total :=
  Nat.add_le_add (critical_le h) (warnings_le h)

theorem total_ofFindings (findings : List Finding) :
    (ofFindings findings).total = findings.length := by
  rw [List.length_eq_countP_add_countP (·.severity = .high)]
  simp [total, ofFindings]

theorem rank_levelOf (critical warnings : Nat) :
    (levelOf critical warnings).rank =
      if 0 < critical then 3 else if 0 < warnings then 2 else 1 := by
  unfold levelOf
  split
  · rfl
  · split <;> rfl

theorem rank_le (h : fewer.Sublist more) :
    (ofFindings fewer).level.rank ≤ (ofFindings more).level.rank := by
  have hc := critical_le h
  have hw := warnings_le h
  simp only [ofFindings, rank_levelOf] at hc hw ⊢
  repeat' split
  all_goals omega

end Risk

-- ---------------------------------------------------------------------------
-- Risk and findings
-- ---------------------------------------------------------------------------

namespace Assessment

variable (assessment : Assessment)

theorem critical_risk : assessment.risk.critical = (assessment.withSeverity .high).length :=
  List.countP_eq_length_filter

theorem total_risk : assessment.risk.total = assessment.findings.length :=
  Risk.total_ofFindings assessment.findings

theorem rank_risk : assessment.risk.level.rank =
    if 0 < (assessment.withSeverity .high).length then 3
    else if 0 < assessment.findings.length then 2 else 1 := by
  have hlevel : assessment.risk.level.rank =
      if 0 < assessment.risk.critical then 3 else if 0 < assessment.risk.warnings then 2 else 1 :=
    Risk.rank_levelOf _ _
  rw [hlevel, ← critical_risk, ← total_risk, Risk.total]
  split
  · rfl
  · rename_i hnone
    rw [Nat.eq_zero_of_not_pos hnone, Nat.zero_add]

theorem high_le_rank_risk : Risk.Level.high.rank ≤ assessment.risk.level.rank ↔
    0 < (assessment.withSeverity .high).length := by
  rw [rank_risk, Risk.Level.rank]
  split
  · omega
  · split <;> omega

theorem medium_le_rank_risk (h : 0 < assessment.findings.length) :
    Risk.Level.medium.rank ≤ assessment.risk.level.rank := by
  rw [rank_risk, if_pos h, Risk.Level.rank]
  split <;> omega

end Assessment

end Critique
