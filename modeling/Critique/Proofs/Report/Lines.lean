import Critique.Proofs.Fence
import Critique.Report

/-!
# Lines of a report

A report is texts below one another, and its lines are theirs. Some of them tell of issues: the
titles of findings and the headings of severities. `Quiet` texts have none of these lines, and the
parts of a report in front of its findings and behind them are made of quiet texts.
-/

namespace Critique

-- ---------------------------------------------------------------------------
-- Texts below one another
-- ---------------------------------------------------------------------------

namespace Text

/-- The lines of texts that are put below one another. -/
def stacked (ts : List Text) : List Text := (ts.flatMap pieces).map dropCarriage

theorem lines_unlines (ts : List Text) : lines (unlines ts) = stacked ts := by
  have hpieces : pieces (unlines ts) = ts.flatMap pieces ++ [[]] := by
    induction ts with
    | nil => rfl
    | cons t ts ih =>
      have hunlines : unlines (t :: ts) = t ++ '\n' :: unlines ts := by simp [unlines, line]
      rw [hunlines, pieces_append, ih, List.flatMap_cons, List.append_assoc]
  rw [lines, hpieces, linesOfPieces_append _ (by simp)]
  simp [linesOfPieces, stacked]

theorem stacked_append (ts more : List Text) :
    stacked (ts ++ more) = stacked ts ++ stacked more := by
  simp [stacked]

theorem stacked_flatMap {α : Type} (items : List α) (f : α → List Text) :
    stacked (items.flatMap f) = items.flatMap fun item => stacked (f item) := by
  simp [stacked, List.flatMap_assoc, List.map_flatMap]

theorem stacked_paragraph {t : Text} (h : '\n' ∉ t) (hend : t.getLast? ≠ some '\r') :
    stacked (paragraph t) = [t, []] := by
  have hnil : dropCarriage [] = [] := by decide
  simp [stacked, paragraph, pieces_of_not_mem h, dropCarriage_of_ne hend, hnil]

theorem dropCarriage_prefix (l : Text) : dropCarriage l <+: l := by
  unfold dropCarriage
  split
  · exact List.dropLast_prefix l
  · exact List.prefix_refl l

theorem feed_not_mem_ofNat (n : Nat) : '\n' ∉ ofNat n := fun h =>
  absurd (Nat.isDigit_of_mem_toDigits (by decide) (by decide) h) (by decide)

end Text

namespace Report

open Text (paragraph stacked)

variable {language : Text} {t : Text} {ts : List Text}

-- ---------------------------------------------------------------------------
-- Lines that tell of issues
-- ---------------------------------------------------------------------------

def title (finding : Finding) : Text :=
  "#### " ++ finding.name ++ " (`" ++ finding.ruleId ++ "`)"

def isTitle (line : Text) : Bool := "#### ".toList.isPrefixOf line

def heading (severity : Severity) : Text := "### " ++ severity.label ++ " Severity Issues"

def noIssues : Text := "### No Issues Detected"

/-- The gravest first. -/
def severities : List Severity := [.high, .medium, .low]

def tells (line : Text) : Bool :=
  isTitle line || line == noIssues || severities.any (line == heading ·)

-- ---------------------------------------------------------------------------
-- Lines that do not
-- ---------------------------------------------------------------------------

/-- No line of the text tells of issues. -/
def Quiet (t : Text) : Prop := ∀ piece ∈ Text.pieces t, tells (Text.dropCarriage piece) = false

instance : DecidablePred Quiet := fun t =>
  inferInstanceAs (Decidable (∀ piece ∈ Text.pieces t, tells (Text.dropCarriage piece) = false))

theorem filter_stacked (h : ∀ t ∈ ts, Quiet t) : (stacked ts).filter tells = [] := by
  simp only [stacked, List.filter_eq_nil_iff, List.forall_mem_map, List.mem_flatMap]
  rintro piece ⟨t, ht, hp⟩
  simp [h t ht piece hp]

theorem prefix_of_tells {line : Text} (h : tells line = true) : ['#', '#'] <+: line := by
  simp only [tells, isTitle, severities, Bool.or_eq_true, List.isPrefixOf_iff_prefix, beq_iff_eq,
    List.any_eq_true] at h
  rcases h with (h | rfl) | ⟨severity, -, rfl⟩
  · exact List.IsPrefix.trans ⟨['#', '#', ' '], rfl⟩ h
  · exact ⟨_, rfl⟩
  · exact ⟨_, rfl⟩

/-- Lines that tell of issues start with two hashes. -/
theorem quiet_of_pieces (h : ∀ piece ∈ Text.pieces t, ¬ ['#', '#'] <+: piece) : Quiet t := by
  intro piece hp
  refine Bool.eq_false_iff.mpr fun ht => h piece hp ?_
  exact (prefix_of_tells ht).trans (Text.dropCarriage_prefix piece)

theorem quiet_of_head (h : '\n' ∉ t) (hhead : t.head? ≠ some '#') : Quiet t := by
  refine quiet_of_pieces ?_
  rw [Text.pieces_of_not_mem h, List.forall_mem_singleton]
  rintro ⟨rest, rfl⟩
  exact hhead rfl

theorem quiet_nil : Quiet [] := by decide

theorem quiet_paragraph (h : Quiet t) : ∀ u ∈ paragraph t, Quiet u :=
  List.forall_mem_cons.mpr ⟨h, List.forall_mem_singleton.mpr quiet_nil⟩

/-- What stands behind a label on its line is quiet. -/
theorem quiet_labelled {label value : Text} (hlabel : '\n' ∉ label)
    (hhead : label.head?.any (· != '#') = true) (hvalue : '\n' ∉ value) :
    Quiet (label ++ value) := by
  refine quiet_of_head (List.not_mem_append hlabel hvalue) ?_
  cases label with
  | nil => cases hhead
  | cons c label => simpa using hhead

theorem head?_around_append (code more : Text) :
    (Fence.around code ++ more).head? = some Fence.backtick := by
  by_contra hhead
  have hlead := Markdown.lead_around_append code more
  rw [Markdown.lead_eq_zero hhead, Fence.length_around] at hlead
  omega

/-- Code in a block is quiet if it is on its own. -/
theorem quiet_block (hl : '\n' ∉ language) (h : Quiet t) : Quiet (Fence.block language t) := by
  obtain ⟨ps, hps, hmem⟩ := Fence.exists_lines_closed t
  have haround := Fence.feed_not_mem_around t
  have hopening : '\n' ∉ Fence.around t ++ language := List.not_mem_append haround hl
  have hblock : Fence.block language t =
      (Fence.around t ++ language) ++ '\n' :: (Text.unlines ps ++ Fence.around t) := by
    simp [Fence.block, Text.line, hps]
  have hfence (more : Text) (hm : '\n' ∉ more) : Quiet (Fence.around t ++ more) := by
    refine quiet_of_head (List.not_mem_append haround hm) ?_
    rw [head?_around_append]
    decide
  intro piece hp
  rw [hblock, Text.pieces_append, Text.pieces_of_not_mem hopening,
    Text.pieces_unlines (fun p hp => Text.not_mem_of_mem_pieces (hmem p hp)) haround,
    List.mem_append, List.mem_append, List.mem_singleton, List.mem_singleton] at hp
  rcases hp with rfl | hp | rfl
  · exact hfence language hl _ (by simp [Text.pieces_of_not_mem hopening])
  · exact h piece (hmem piece hp)
  · exact hfence [] (by simp) _ (by simp [Text.pieces_of_not_mem haround])

-- ---------------------------------------------------------------------------
-- The other parts
-- ---------------------------------------------------------------------------

/-- The lines in front of the issues. -/
def openingLines (kind : Kind) (language : Text) : List Text :=
  paragraph ("## " ++ kind.title ++ ": Heuristic Analysis") ++
    paragraph ("*Generated by static pattern analysis for " ++ language ++
      ". AI analysis was unavailable.*")

/-- The lines behind the issues. -/
def closingLines (kind : Kind) (assessment : Assessment) : List Text :=
  tableLines kind assessment ++ riskLines assessment.risk ++ adviceLines kind assessment ++
    paragraph "### Recommendations" ++ (recommendations kind).map bullet

theorem heuristicLines_eq (kind : Kind) (language : Text) (assessment : Assessment) :
    heuristicLines kind language assessment =
      openingLines kind language ++ issueLines language assessment ++
        closingLines kind assessment := by
  simp only [heuristicLines, openingLines, closingLines, List.append_assoc]

theorem quiet_openingLines (kind : Kind) (hl : '\n' ∉ language) :
    ∀ t ∈ openingLines kind language, Quiet t := by
  refine List.forall_mem_append.mpr ⟨quiet_paragraph ?title, quiet_paragraph ?origin⟩
  case title => cases kind <;> decide
  case origin =>
    rw [List.append_assoc]
    exact quiet_labelled (by decide) (by decide) (List.not_mem_append hl (by decide))

theorem quiet_row {name value : Text} (hn : '\n' ∉ name) (hv : '\n' ∉ value) :
    Quiet (row name value) := by
  unfold row
  rw [List.append_assoc, List.append_assoc, List.append_assoc]
  exact quiet_labelled (by decide) (by decide)
    (List.not_mem_append hn (List.not_mem_append (by decide)
      (List.not_mem_append hv (by decide))))

theorem quiet_metricRows (metrics : Metrics) : ∀ t ∈ metricRows metrics, Quiet t := by
  unfold metricRows
  iterate 7
    refine List.forall_mem_cons.mpr ⟨quiet_row (by decide) (Text.feed_not_mem_ofNat _), ?_⟩
  exact List.forall_mem_nil _

theorem feed_not_mem_grade (scores : Scores) : '\n' ∉ [scores.grade] := by
  unfold Scores.grade Scores.gradeOf
  repeat' split
  all_goals decide

theorem quiet_scoreRows (scores : Scores) : ∀ t ∈ scoreRows scores, Quiet t := by
  unfold scoreRows
  iterate 5
    refine List.forall_mem_cons.mpr ⟨quiet_row (by decide) (Text.feed_not_mem_ofNat _), ?_⟩
  exact List.forall_mem_singleton.mpr (quiet_row (by decide) (feed_not_mem_grade scores))

theorem quiet_tableLines (kind : Kind) (assessment : Assessment) :
    ∀ t ∈ tableLines kind assessment, Quiet t := by
  have hscores : ∀ t ∈ if kind = .review then scoreRows assessment.scores else [], Quiet t := by
    split
    · exact quiet_scoreRows _
    · exact List.forall_mem_nil _
  unfold tableLines
  refine List.forall_mem_append.mpr ⟨List.forall_mem_append.mpr ⟨List.forall_mem_append.mpr
    ⟨quiet_paragraph (by decide), ?_⟩, hscores⟩, List.forall_mem_singleton.mpr quiet_nil⟩
  exact List.forall_mem_cons.mpr ⟨by decide, List.forall_mem_cons.mpr
    ⟨by decide, quiet_metricRows _⟩⟩

theorem quiet_riskLines (risk : Risk) : ∀ t ∈ riskLines risk, Quiet t := by
  have hlevel : Quiet ("- **Overall risk:** " ++ risk.level.label) := by
    cases risk.level <;> decide
  refine List.forall_mem_append.mpr ⟨quiet_paragraph (by decide), ?_⟩
  refine List.forall_mem_cons.mpr ⟨hlevel, ?_⟩
  iterate 3
    refine List.forall_mem_cons.mpr
      ⟨quiet_labelled (by decide) (by decide) (Text.feed_not_mem_ofNat _), ?_⟩
  exact List.forall_mem_singleton.mpr (by decide)

theorem quiet_advices : ∀ advice ∈ advices, ∀ t ∈ advice.lines, Quiet t := by
  unfold advices
  repeat rw [String.toList_ofList]
  decide +kernel

theorem quiet_adviceLines (kind : Kind) (assessment : Assessment) :
    ∀ t ∈ adviceLines kind assessment, Quiet t := by
  unfold adviceLines
  simp only
  split
  · exact List.forall_mem_nil _
  · refine List.forall_mem_append.mpr ⟨quiet_paragraph (by decide), fun t ht => ?_⟩
    obtain ⟨advice, hadvice, ht⟩ := List.mem_flatMap.mp ht
    exact quiet_advices advice (List.mem_filter.mp hadvice).1 t ht

theorem quiet_recommendations (kind : Kind) :
    ∀ t ∈ (recommendations kind).map bullet, Quiet t := by
  cases kind
  all_goals
    unfold recommendations
    repeat rw [String.toList_ofList]
    decide +kernel

theorem quiet_closingLines (kind : Kind) (assessment : Assessment) :
    ∀ t ∈ closingLines kind assessment, Quiet t := by
  simp only [closingLines, List.forall_mem_append]
  exact ⟨⟨⟨⟨quiet_tableLines kind assessment, quiet_riskLines _⟩,
    quiet_adviceLines kind assessment⟩, quiet_paragraph (by decide)⟩, quiet_recommendations kind⟩

end Report

end Critique
