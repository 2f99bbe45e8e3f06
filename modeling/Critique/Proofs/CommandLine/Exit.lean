import Critique.CommandLine.Run
import Critique.Proofs.Assessment.Findings

/-!
# Exit codes and summaries

A threshold looks at the risk of one file after the other, a summary counts the findings of all of
them. `exit_agrees`: both come to the same, for the risk of a file with findings is high just where
one of them is. Both are built up file by file, and a summary is the sum of those of its files.
-/

namespace Critique

-- ---------------------------------------------------------------------------
-- Summaries
-- ---------------------------------------------------------------------------

namespace Summary

variable (files more : List FileAssessment) (file : FileAssessment)

/-- Field by field. -/
instance : Add Summary where
  add a b := ⟨a.high + b.high, a.medium + b.medium, a.low + b.low,
    a.filesWithIssues + b.filesWithIssues, a.totalFiles + b.totalFiles⟩

theorem total_add (a b : Summary) : (a + b).total = a.total + b.total := by
  show a.high + b.high + (a.medium + b.medium) + (a.low + b.low) = _
  simp only [total]
  omega

theorem count_append (severity : Severity) :
    count (files ++ more) severity = count files severity + count more severity := by
  show (List.map _ (files ++ more)).sum = _
  rw [List.map_append, List.sum_append]
  rfl

theorem ofFiles_append : ofFiles (files ++ more) = ofFiles files + ofFiles more := by
  show Summary.mk _ _ _ _ _ = Summary.mk _ _ _ _ _
  rw [count_append, count_append, count_append, List.countP_append, List.length_append]
  rfl

theorem ofFiles_cons : ofFiles (file :: files) = ofFiles [file] + ofFiles files :=
  ofFiles_append [file] files

theorem count_singleton (severity : Severity) :
    count [file] severity = (file.assessment.withSeverity severity).length := rfl

/-- A finding is of one of three severities. -/
theorem total_singleton : (ofFiles [file]).total = file.assessment.findings.length := by
  simp only [total, ofFiles, count_singleton, Assessment.withSeverity]
  induction file.assessment.findings with
  | nil => rfl
  | cons finding rest ih => cases hs : finding.severity <;> simp [hs, ← ih] <;> omega

theorem total_ofFiles :
    (ofFiles files).total = (files.flatMap (·.assessment.findings)).length := by
  induction files with
  | nil => rfl
  | cons file files ih =>
    rw [ofFiles_cons, total_add, total_singleton, ih, List.flatMap_cons, List.length_append]

theorem filesWithIssues_le_total : (ofFiles files).filesWithIssues ≤ (ofFiles files).total := by
  induction files with
  | nil => exact Nat.le_refl 0
  | cons file files ih =>
    have hone : (ofFiles [file]).filesWithIssues ≤ (ofFiles [file]).total := by
      rw [total_singleton]
      cases hf : file.assessment.findings <;> simp [ofFiles, hf]
    rw [ofFiles_cons, total_add]
    exact Nat.add_le_add hone ih

theorem filesWithIssues_le_totalFiles :
    (ofFiles files).filesWithIssues ≤ (ofFiles files).totalFiles := List.countP_le_length

end Summary

-- ---------------------------------------------------------------------------
-- Thresholds
-- ---------------------------------------------------------------------------

namespace CommandLine

/-- What the numbers of a summary say about a threshold. -/
def Threshold.Reached : Threshold → Summary → Prop
  | .high, summary => 0 < summary.high
  | .medium, summary | .low, summary => 0 < summary.total
  | .never, _ => False

namespace Threshold

variable (threshold : Threshold)

theorem reached_add (a b : Summary) :
    threshold.Reached (a + b) ↔ threshold.Reached a ∨ threshold.Reached b := by
  cases threshold with
  | high => exact Nat.add_pos_iff_pos_or_pos
  | medium | low => simp only [Reached, Summary.total_add, Nat.add_pos_iff_pos_or_pos]
  | never => simp [Reached]

theorem fails_iff (assessment : Assessment) : threshold.fails assessment = true ↔
    ∃ level, threshold.level? = some level ∧ 0 < assessment.findings.length ∧
      level.rank ≤ assessment.risk.level.rank := by
  simp only [fails, Option.any_eq_true, Bool.and_eq_true, decide_eq_true_eq,
    Assessment.total_risk]

theorem fails_iff_reached (file : FileAssessment) :
    threshold.fails file.assessment = true ↔ threshold.Reached (.ofFiles [file]) := by
  have hhigh : (Summary.ofFiles [file]).high = (file.assessment.withSeverity .high).length := rfl
  have hle : (file.assessment.withSeverity .high).length ≤ file.assessment.findings.length :=
    List.length_filter_le _ _
  have hmedium := file.assessment.medium_le_rank_risk
  rw [fails_iff]
  cases threshold with
  | high =>
    simp only [level?, Option.some.injEq, exists_eq_left', Assessment.high_le_rank_risk, Reached,
      hhigh]
    exact and_iff_right_of_imp fun hpos => hpos.trans_le hle
  | medium =>
    simp only [level?, Option.some.injEq, exists_eq_left', Reached, Summary.total_singleton]
    exact and_iff_left_of_imp hmedium
  | low =>
    simp only [level?, Option.some.injEq, exists_eq_left', Reached, Summary.total_singleton]
    exact and_iff_left_of_imp fun hpos => (Nat.le_succ 1).trans (hmedium hpos)
  | never => simp [level?, Reached]

theorem failsAny_iff_reached (files : List FileAssessment) :
    threshold.failsAny files = true ↔ threshold.Reached (.ofFiles files) := by
  induction files with
  | nil =>
    cases threshold <;>
      simp [failsAny, Reached, Summary.ofFiles, Summary.total, Summary.count]
  | cons file files ih =>
    rw [Summary.ofFiles_cons, reached_add, ← fails_iff_reached, ← ih]
    simp [failsAny]

end Threshold

/-- An analysis fails where the numbers of its summary reach the threshold: findings of high
severity for `high`, any for `medium` and `low`. The total is that of all findings; files with
findings are at most as many; and summaries of files put together add up. -/
theorem exit_agrees (files more : List FileAssessment) :
    let summary := Summary.ofFiles files
    (∀ threshold : Threshold, threshold.failsAny files = true ↔ threshold.Reached summary) ∧
    summary.total = summary.high + summary.medium + summary.low ∧
    summary.total = (files.flatMap (·.assessment.findings)).length ∧
    summary.filesWithIssues ≤ min summary.total summary.totalFiles ∧
    Summary.ofFiles (files ++ more) = summary + .ofFiles more ∧
    (Summary.ofFiles (files ++ more)).total = summary.total + (Summary.ofFiles more).total ∧
    ∀ (analysis : Analysis) (colours : Bool) (results : List (Except FileFault FileAssessment)),
      (analysis.conclude colours results).exit = Outcome.risk ↔
        analysis.threshold.Reached (.ofFiles (Analysis.sorted results)) := by
  intro summary
  refine ⟨fun threshold => threshold.failsAny_iff_reached files, rfl, Summary.total_ofFiles files,
    ?_, Summary.ofFiles_append files more, ?_, ?_⟩
  · exact Nat.le_min.mpr
      ⟨Summary.filesWithIssues_le_total files, Summary.filesWithIssues_le_totalFiles files⟩
  · rw [Summary.ofFiles_append, Summary.total_add]
  · intro analysis colours results
    rw [← Threshold.failsAny_iff_reached]
    simp [Analysis.conclude, Outcome.risk, Outcome.success]

end CommandLine

end Critique
