import Critique.Proofs.Assessment.Findings
import Mathlib.Algebra.Order.Field.Rat
import Mathlib.Tactic.Linarith

/-!
# Scores and risk of a list of findings

`scores_tally`: scores and risk look at which findings there are, not at their order. The overall
score is the mean of the dimensions to within a half, and one finding more lowers its own dimension
alone, by its penalty, and the overall score by five points at most.
-/

namespace Critique

variable {findings more : List Finding} {finding : Finding} {dimension : Dimension}

theorem Severity.penalty_le (severity : Severity) : severity.penalty ≤ 20 := by
  cases severity <;> decide

namespace Scores

-- ---------------------------------------------------------------------------
-- The overall score among the dimensions
-- ---------------------------------------------------------------------------

variable (scores : Scores)

def lowest : Nat :=
  min (min scores.maintainability scores.readability) (min scores.efficiency scores.bestPractices)

def highest : Nat :=
  max (max scores.maintainability scores.readability) (max scores.efficiency scores.bestPractices)

/-- The mean of the dimensions as it is, not rounded. -/
def mean : ℚ :=
  ((scores.maintainability + scores.readability + scores.efficiency + scores.bestPractices : Nat) :
    ℚ) / 4

theorem lowest_le_overall : scores.lowest ≤ scores.overall := by
  unfold lowest overall
  omega

theorem overall_le_highest : scores.overall ≤ scores.highest := by
  unfold overall highest
  omega

theorem abs_overall_sub_mean_le : |(scores.overall : ℚ) - scores.mean| ≤ 1 / 2 := by
  have h : 4 * scores.overall ≤ scores.maintainability + scores.readability + scores.efficiency +
        scores.bestPractices + 2 ∧
      scores.maintainability + scores.readability + scores.efficiency + scores.bestPractices ≤
        4 * scores.overall + 1 := by
    unfold overall
    omega
  unfold mean
  generalize scores.maintainability + scores.readability + scores.efficiency +
    scores.bestPractices = sum at h ⊢
  have hlow : (4 * scores.overall : ℚ) ≤ sum + 2 := by exact_mod_cast h.1
  have hhigh : (sum : ℚ) ≤ 4 * scores.overall + 1 := by exact_mod_cast h.2
  rw [abs_le]
  constructor <;> linarith

theorem gradeOf_le {low high : Nat} (h : low ≤ high) : gradeOf high ≤ gradeOf low := by
  unfold gradeOf
  repeat' split
  all_goals first | decide | omega

-- ---------------------------------------------------------------------------
-- Other orders
-- ---------------------------------------------------------------------------

theorem penalty_perm (h : more.Perm findings) (dimension : Dimension) :
    penalty more dimension = penalty findings dimension :=
  ((h.filter _).map _).sum_eq

theorem ofFindings_perm (h : more.Perm findings) : ofFindings more = ofFindings findings := by
  simp only [ofFindings, score, penalty_perm h]

-- ---------------------------------------------------------------------------
-- One finding more
-- ---------------------------------------------------------------------------

/-- What a finding takes from a dimension. -/
def share (finding : Finding) (dimension : Dimension) : Nat :=
  if finding.dimension = dimension then finding.severity.penalty else 0

theorem share_le (finding : Finding) (dimension : Dimension) : share finding dimension ≤ 20 := by
  unfold share
  split
  · exact finding.severity.penalty_le
  · exact Nat.zero_le 20

theorem penalty_cons (finding : Finding) (findings : List Finding) (dimension : Dimension) :
    penalty (finding :: findings) dimension =
      share finding dimension + penalty findings dimension := by
  unfold penalty share
  by_cases h : finding.dimension = dimension <;> simp [h]

theorem penalty_le_length (findings : List Finding) (dimension : Dimension) :
    penalty findings dimension ≤ 20 * findings.length := by
  induction findings with
  | nil => exact Nat.le_refl 0
  | cons finding findings ih =>
    have hshare := share_le finding dimension
    rw [penalty_cons, List.length_cons]
    omega

theorem score_cons (finding : Finding) (findings : List Finding) (dimension : Dimension) :
    score (finding :: findings) dimension = score findings dimension - share finding dimension := by
  unfold score
  rw [penalty_cons, Nat.add_comm, Nat.sub_add_eq]

/-- Four times the overall score goes down by twenty points at most. -/
theorem overall_le_cons (finding : Finding) (findings : List Finding) :
    (ofFindings findings).overall ≤ (ofFindings (finding :: findings)).overall + 5 := by
  have hpenalty := finding.severity.penalty_le
  simp only [overall, ofFindings, score_cons, share]
  cases finding.dimension <;> simp <;> omega

end Scores

namespace Risk

theorem ofFindings_perm (h : more.Perm findings) : ofFindings more = ofFindings findings := by
  simp only [ofFindings, h.countP_eq]

end Risk

/-- What one finding more does to scores and risk. Grades get worse down the alphabet. -/
structure Worsens (finding : Finding) (findings more : List Finding) : Prop where
  others : ∀ dimension, dimension ≠ finding.dimension →
    (Scores.ofFindings more).get dimension = (Scores.ofFindings findings).get dimension
  own : (Scores.ofFindings more).get finding.dimension ≤
    (Scores.ofFindings findings).get finding.dimension
  overall : (Scores.ofFindings more).overall ≤ (Scores.ofFindings findings).overall
  loss : (Scores.ofFindings findings).overall ≤ (Scores.ofFindings more).overall + 5
  grade : (Scores.ofFindings findings).grade ≤ (Scores.ofFindings more).grade
  level : (Risk.ofFindings findings).level.rank ≤ (Risk.ofFindings more).level.rank

theorem worsens_cons (finding : Finding) (findings : List Finding) :
    Worsens finding findings (finding :: findings) := by
  have hsub : findings.Sublist (finding :: findings) := List.sublist_cons_self finding findings
  constructor
  case others =>
    intro dimension hne
    rw [Scores.get_ofFindings, Scores.get_ofFindings, Scores.score_cons, Scores.share,
      if_neg (Ne.symm hne), Nat.sub_zero]
  case own =>
    rw [Scores.get_ofFindings, Scores.get_ofFindings]
    exact Scores.score_le hsub _
  case overall => exact Scores.overall_le hsub
  case loss => exact Scores.overall_le_cons finding findings
  case grade => exact Scores.gradeOf_le (Scores.overall_le hsub)
  case level => exact Risk.rank_le hsub

theorem Worsens.of_perm {other : List Finding} (h : Worsens finding findings more)
    (hp : other.Perm more) : Worsens finding findings other := by
  have hscores := Scores.ofFindings_perm hp
  have hrisk := Risk.ofFindings_perm hp
  exact ⟨hscores ▸ h.others, hscores ▸ h.own, hscores ▸ h.overall, hscores ▸ h.loss,
    hscores ▸ h.grade, hrisk ▸ h.level⟩

/-- A dimension loses the penalties of its findings, down to nothing; findings of any order come to
the same. The overall score lies among the dimensions, within a half of their mean. One finding
more, wherever it is put, makes nothing better, and the overall score worse by five at most. -/
theorem scores_tally (findings : List Finding) :
    let scores := Scores.ofFindings findings
    let risk := Risk.ofFindings findings
    let penalties dimension :=
      (findings.filter (·.dimension = dimension)).map (·.severity.penalty)
    (∀ more : List Finding, more.Perm findings →
      Scores.ofFindings more = scores ∧ Risk.ofFindings more = risk) ∧
    (∀ dimension, (scores.get dimension : Int) = max 0 (100 - ((penalties dimension).sum : Nat))) ∧
    (∀ dimension, Scores.penalty findings dimension ≤ 20 * findings.length) ∧
    scores.lowest ≤ scores.overall ∧ scores.overall ≤ scores.highest ∧
    |(scores.overall : ℚ) - scores.mean| ≤ 1 / 2 ∧
    risk.total = risk.critical + risk.warnings ∧ risk.total = findings.length ∧
    ∀ finding front back, findings = front ++ back →
      Worsens finding findings (front ++ finding :: back) := by
  intro scores risk penalties
  refine ⟨fun more h => ⟨Scores.ofFindings_perm h, Risk.ofFindings_perm h⟩, fun dimension => ?_,
    Scores.penalty_le_length findings, scores.lowest_le_overall, scores.overall_le_highest,
    scores.abs_overall_sub_mean_le, rfl, Risk.total_ofFindings findings, ?_⟩
  · have hscore : scores.get dimension = 100 - Scores.penalty findings dimension :=
      Scores.get_ofFindings findings dimension
    have hsum : Scores.penalty findings dimension = (penalties dimension).sum := rfl
    rw [hscore, ← hsum]
    omega
  · rintro finding front back rfl
    exact (worsens_cons finding (front ++ back)).of_perm List.perm_middle

/-- Findings that use up a dimension and more, one of another dimension in front of them, and one
that is put between. -/
theorem scores_tally_crowded :
    let one := Catalog.nestedLoops.finding
    let front := [Catalog.evalUsage.finding, one, one, one, one]
    let back := List.replicate 7 one
    let added := Catalog.todoComment.finding
    let findings := front ++ back
    let more := front ++ added :: back
    findings.reverse.Perm findings ∧ Scores.ofFindings findings.reverse = ⟨100, 100, 0, 80⟩ ∧
      (Scores.ofFindings findings).overall = 70 ∧ (Scores.ofFindings findings).grade = 'C' ∧
      findings = front ++ back ∧ Worsens added findings more ∧
      (Scores.ofFindings more).overall = 69 ∧ (Scores.ofFindings more).grade = 'D' := by
  intro one front back added findings more
  have hperm : findings.reverse.Perm findings := List.reverse_perm findings
  obtain ⟨hany, -, -, -, -, -, -, -, hadd⟩ := scores_tally findings
  have hscores : Scores.ofFindings findings = ⟨100, 100, 0, 80⟩ := by decide
  exact ⟨hperm, (hany _ hperm).1.trans hscores, by decide, by decide, rfl,
    hadd added front back rfl, by decide, by decide⟩

end Critique
