import Critique.CommandLine.Run
import Critique.Proofs.Files.Reordering
import Mathlib.Data.List.Perm.Basic

/-!
# Analyses in another order

`run_reordered`: what an analysis prints and how it ends depends neither on the order of its paths
nor on that in which folders list their entries. Each file is assessed by itself, and the results
are sorted by path, so the order in which files were come by shows only where two paths of the same
parts are spelled differently.
-/

namespace Critique

-- ---------------------------------------------------------------------------
-- The order of paths
-- ---------------------------------------------------------------------------

namespace Path

instance : Std.TransCmp compareRanks :=
  inferInstanceAs (Std.TransCmp (List.compareLex (compare : Nat → Nat → Ordering)))

theorem precedes_trans (a b c : Text) (hab : precedes a b = true) (hbc : precedes b c = true) :
    precedes a c = true :=
  Std.TransCmp.isLE_trans hab hbc

theorem precedes_total (a b : Text) : (precedes a b || precedes b a) = true := by
  have hswap : List.compareLex compareRanks (key b) (key a) =
      (List.compareLex compareRanks (key a) (key b)).swap := Std.OrientedCmp.eq_swap
  simp only [precedes, hswap]
  cases List.compareLex compareRanks (key a) (key b) <;> rfl

end Path

namespace CommandLine

/-- The same is printed and the end is the same. Complaints may come in another order. -/
structure Outcome.Agrees (outcome other : Outcome) : Prop where
  output : other.output = outcome.output
  exit : other.exit = outcome.exit
  complaints : other.complaints.Perm outcome.complaints

theorem Outcome.Agrees.refl (outcome : Outcome) : outcome.Agrees outcome := ⟨rfl, rfl, .refl _⟩

namespace Analysis

variable {analysis : Analysis} {here : Surroundings} {settings : Settings} {tree : Tree}
  {paths : List Text}

-- ---------------------------------------------------------------------------
-- Results in the order of their paths
-- ---------------------------------------------------------------------------

theorem sorted_perm (results : List (Except FileFault FileAssessment)) :
    (sorted results).Perm (results.filterMap assessed?) := List.mergeSort_perm _ _

theorem sorted_pairwise (results : List (Except FileFault FileAssessment)) :
    (sorted results).Pairwise fun a b => Path.precedes a.path b.path = true :=
  List.pairwise_mergeSort (fun a b c => Path.precedes_trans a.path b.path c.path)
    (fun a b => Path.precedes_total a.path b.path) _

theorem sorted_eq_of_perm {results others : List (Except FileFault FileAssessment)}
    (h : others.Perm results)
    (hs : ∀ a ∈ results.filterMap assessed?, ∀ b ∈ results.filterMap assessed?,
      Path.precedes a.path b.path = true → Path.precedes b.path a.path = true → a = b) :
    sorted others = sorted results := by
  have hperm : (sorted others).Perm (sorted results) :=
    (sorted_perm others).trans ((h.filterMap _).trans (sorted_perm results).symm)
  refine List.Perm.eq_of_pairwise ?_ (sorted_pairwise others) (sorted_pairwise results) hperm
  intro a b ha hb
  exact hs a ((sorted_perm results).mem_iff.mp (hperm.mem_iff.mp ha)) b
    ((sorted_perm results).mem_iff.mp hb)

-- ---------------------------------------------------------------------------
-- The files of an analysis
-- ---------------------------------------------------------------------------

/-- The files that a path leads to, whatever their language. -/
def reached (tree : Tree) (folder path : Text) : List Text :=
  match tree.at? folder path with
  | .ok (.folder entries) => Tree.filesIn path entries
  | _ => [path]

/-- All files that an analysis comes by. -/
def found (analysis : Analysis) (here : Surroundings) : List Text :=
  analysis.paths.flatMap (reached here.tree here.folder)

/-- What a file comes to by itself, if its language is known and it can be read. -/
def alone (analysis : Analysis) (here : Surroundings) (settings : Settings) (path : Text) :
    Option FileAssessment := do
  let language ← Language.choose analysis.language path
  let code ← (here.tree.read here.folder path).toOption
  return ⟨path, language,
    (Catalog.all.without settings.disabledRules).assess analysis.kind code language⟩

theorem assessed?_assess (path : Text) :
    assessed? (analysis.assess here settings path) = analysis.alone here settings path := by
  simp only [assess, Catalog.assessFile, alone]
  cases Language.choose analysis.language path with
  | none => rfl
  | some language =>
    cases here.tree.read here.folder path with
    | error fault => rfl
    | ok code => rfl

theorem filterMap_assessed? (files : List Text) :
    (files.map (analysis.assess here settings)).filterMap assessed? =
      files.filterMap (analysis.alone here settings) := by
  rw [List.filterMap_map]
  exact List.filterMap_congr fun path _ => assessed?_assess path

theorem path_of_alone {path : Text} {file : FileAssessment}
    (h : analysis.alone here settings path = some file) : file.path = path := by
  simp only [alone, Option.bind_eq_bind, Option.bind_eq_some_iff, Option.pure_def] at h
  obtain ⟨_, -, _, -, ⟨⟩⟩ := h
  rfl

/-- What is not taken has no language that is known. -/
theorem alone_of_not_takes {path : Text} (h : takes analysis.language path = false) :
    analysis.alone here settings path = none := by
  simp only [takes, Bool.or_eq_false_iff, Option.isSome_eq_false_iff, Option.isNone_iff_eq_none]
    at h
  simp [alone, Language.choose, h.1, h.2]

theorem filterMap_filesOf (path : Text) :
    (filesOf here.tree here.folder analysis.language path).filterMap
        (analysis.alone here settings) =
      (reached here.tree here.folder path).filterMap (analysis.alone here settings) := by
  have hfilter (paths : List Text) :
      (paths.filter (takes analysis.language)).filterMap (analysis.alone here settings) =
        paths.filterMap (analysis.alone here settings) := by
    rw [List.filterMap_filter]
    refine List.filterMap_congr fun path _ => ?_
    cases ht : takes analysis.language path with
    | true => rfl
    | false => exact (alone_of_not_takes ht).symm
  simp only [filesOf, reached]
  cases here.tree.at? here.folder path with
  | error fault => rfl
  | ok tree =>
    cases tree with
    | file content => rfl
    | folder entries => exact hfilter _

theorem filterMap_files :
    (analysis.files here).filterMap (analysis.alone here settings) =
      (analysis.found here).filterMap (analysis.alone here settings) := by
  simp only [files, found, List.filterMap_flatMap, filterMap_filesOf]

-- ---------------------------------------------------------------------------
-- Trees in another order
-- ---------------------------------------------------------------------------

theorem settings_eq (h : here.tree.Reordered tree) (named : Option Text) :
    { here with tree }.settings named = here.settings named := by
  simp only [Surroundings.settings, Settings.discover, Settings.find?, Settings.load]
  unfold Settings.nearest?
  rw [h.read_eq, h.isFile_eq]

theorem assess_eq (h : here.tree.Reordered tree) (settings : Settings) :
    { analysis with paths }.assess { here with tree } settings =
      analysis.assess here settings := by
  funext path
  simp only [assess, Catalog.assessFile, h.read_eq]

theorem filesOf_perm (h : here.tree.Reordered tree) (language : Option Text) (path : Text) :
    (filesOf tree here.folder language path).Perm
      (filesOf here.tree here.folder language path) := by
  unfold filesOf
  rcases h.at?_cases here.folder path with ⟨_, ha, hb⟩ | ⟨_, ha, hb⟩ | ⟨_, _, ha, hb, hf⟩
  · rw [ha, hb]
  · rw [ha, hb]
  · rw [ha, hb]
    exact (hf.filesAt_perm path).filter _

theorem files_perm (h : here.tree.Reordered tree) (hp : analysis.paths.Perm paths) :
    ({ analysis with paths }.files { here with tree }).Perm (analysis.files here) :=
  hp.symm.flatMap fun path _ => filesOf_perm h analysis.language path

-- ---------------------------------------------------------------------------
-- Whole runs
-- ---------------------------------------------------------------------------

theorem sorted_map_eq_of_perm {files others : List Text} (h : others.Perm files)
    (hs : ∀ a ∈ files, ∀ b ∈ files, Path.precedes a b = true → Path.precedes b a = true → a = b) :
    sorted (others.map (analysis.assess here settings)) =
      sorted (files.map (analysis.assess here settings)) := by
  refine sorted_eq_of_perm (h.map _) fun a ha b hb hab hba => ?_
  rw [filterMap_assessed?] at ha hb
  obtain ⟨p, hp, ha⟩ := List.mem_filterMap.mp ha
  obtain ⟨q, hq, hb⟩ := List.mem_filterMap.mp hb
  -- Equal paths are assessed alike, so results that are not told apart are the same.
  have hpq : p = q := by
    rw [path_of_alone ha, path_of_alone hb] at hab hba
    exact hs p hp q hq hab hba
  rw [hpq, hb] at ha
  exact (Option.some.inj ha).symm

theorem run_of_failure {failure : Settings.Failure}
    (h : here.settings analysis.settingsFile = .error failure) :
    analysis.run here = .failing (complaint here.colours failure.message) := by
  rw [run, h]

theorem run_of_no_files (h : here.settings analysis.settingsFile = .ok settings)
    (hf : analysis.files here = []) : analysis.run here =
      ⟨Outcome.success, [], [Style.paint here.colours (.plain .yellow) noFiles]⟩ := by
  simp [run, h, hf]

theorem run_of_files (h : here.settings analysis.settingsFile = .ok settings)
    (hf : analysis.files here ≠ []) : analysis.run here =
      analysis.conclude here.colours
        ((analysis.files here).map (analysis.assess here settings)) := by
  simp [run, h, hf]

theorem conclude_agrees {files others : List Text} (h : others.Perm files)
    (hs : ∀ a ∈ files, ∀ b ∈ files, Path.precedes a b = true → Path.precedes b a = true → a = b)
    (colours : Bool) :
    (analysis.conclude colours (files.map (analysis.assess here settings))).Agrees
      (analysis.conclude colours (others.map (analysis.assess here settings))) where
  output := by simp only [conclude, sorted_map_eq_of_perm h hs]
  exit := by simp only [conclude, sorted_map_eq_of_perm h hs]
  complaints := ((h.map _).filterMap _).map _

theorem run_agrees (htree : here.tree.Reordered tree) (hpaths : analysis.paths.Perm paths)
    (hspelled : ∀ a ∈ analysis.files here, ∀ b ∈ analysis.files here,
      Path.precedes a b = true → Path.precedes b a = true → a = b) :
    (analysis.run here).Agrees ({ analysis with paths }.run { here with tree }) := by
  have hload : { here with tree }.settings { analysis with paths }.settingsFile =
      here.settings analysis.settingsFile := settings_eq htree _
  have hfiles : ({ analysis with paths }.files { here with tree }).Perm (analysis.files here) :=
    files_perm htree hpaths
  cases hs : here.settings analysis.settingsFile with
  | error failure =>
    rw [run_of_failure hs, run_of_failure (hload.trans hs)]
    exact .refl _
  | ok settings =>
    by_cases hf : analysis.files here = []
    · have hf' : { analysis with paths }.files { here with tree } = [] := (hf ▸ hfiles).eq_nil
      rw [run_of_no_files hs hf, run_of_no_files (hload.trans hs) hf']
      exact .refl _
    · have hf' : { analysis with paths }.files { here with tree } ≠ [] :=
        fun he => hf (he ▸ hfiles).symm.eq_nil
      rw [run_of_files hs hf, run_of_files (hload.trans hs) hf', assess_eq htree]
      exact conclude_agrees hfiles hspelled here.colours

/-- The paths of an analysis, and the entries of all folders, may stand in any order, and so may all
files that it comes by: as long as paths of the same parts are spelled alike, the output and the
exit code are the same. What is shown are the files that can be read and whose language is known, in
the order of their paths, and each as it is by itself. -/
theorem run_reordered (analysis : Analysis) (here : Surroundings) {tree : Tree}
    {paths : List Text} (htree : here.tree.Reordered tree) (hpaths : analysis.paths.Perm paths)
    (hspelled : ∀ a ∈ analysis.files here, ∀ b ∈ analysis.files here,
      Path.precedes a b = true → Path.precedes b a = true → a = b) :
    let run := analysis.run here
    run.Agrees ({ analysis with paths }.run { here with tree }) ∧
    ∀ settings, here.settings analysis.settingsFile = .ok settings → analysis.files here ≠ [] →
      (∀ files : List Text, files.Perm (analysis.files here) → run.Agrees
        (analysis.conclude here.colours (files.map (analysis.assess here settings)))) ∧
      ∃ shown : List FileAssessment,
        shown.Perm ((analysis.found here).filterMap (analysis.alone here settings)) ∧
        shown.Pairwise (fun a b => Path.precedes a.path b.path = true) ∧
        run.output = Listing.files here.colours analysis.kind analysis.format shown ∧
        run.exit = if analysis.threshold.failsAny shown then Outcome.risk else Outcome.success := by
  intro run
  refine ⟨run_agrees htree hpaths hspelled, fun settings hs hf => ⟨fun files h => ?_, ?_⟩⟩
  · simp only [run, run_of_files hs hf]
    exact conclude_agrees h hspelled here.colours
  refine ⟨sorted ((analysis.files here).map (analysis.assess here settings)), ?_,
    sorted_pairwise _, ?_⟩
  · rw [← filterMap_files, ← filterMap_assessed?]
    exact sorted_perm _
  · simp only [run, run_of_files hs hf, conclude, and_self]

/-- A file with a finding, one that is no text, one whose language is not known, and another. -/
def crowded : Tree := .folder [
  ("d", .folder [("b.py", .file (Utf8.encode "eval(a)")), ("a.js", .file [0xFF]),
    ("n.txt", .file [])]),
  ("c.py", .file (Utf8.encode "x = 1"))]

/-- The same files. -/
def rearranged : Tree := .folder [
  ("c.py", .file (Utf8.encode "x = 1")),
  ("d", .folder [("n.txt", .file []), ("a.js", .file [0xFF]),
    ("b.py", .file (Utf8.encode "eval(a)"))])]

theorem rearranged_reordered : crowded.Reordered rearranged := by
  refine .trans (.cons "d" ?_ (.refl _)) (.swap [] (by decide))
  exact .of_perm (List.reverse_perm _).symm (by decide)

/-- One of the files is named twice, and they are come by in another order. -/
theorem run_reordered_crowded :
    let analysis : Analysis := ⟨["d", "c.py", "d/b.py"], .bugs, none, .compact, .high, none⟩
    let here : Surroundings := ⟨crowded, "/", fun _ => none⟩
    let paths : List Text := ["d/b.py", "c.py", "d"]
    let files : List Text := ["d/b.py", "d/a.js", "c.py", "d/b.py"]
    let settings := Settings.default.withEnvironment here.environment
    crowded.Reordered rearranged ∧ analysis.paths.Perm paths ∧ analysis.files here = files ∧
    { analysis with paths }.files { here with tree := rearranged } ≠ files ∧
    (∀ a ∈ files, ∀ b ∈ files,
      Path.precedes a b = true → Path.precedes b a = true → a = b) ∧
    (analysis.run here).Agrees ({ analysis with paths }.run { here with tree := rearranged }) ∧
    here.settings analysis.settingsFile = .ok settings ∧
    ((analysis.found here).filterMap (analysis.alone here settings)).map (·.path) =
      [("d/b.py" : Text), "c.py", "d/b.py"] ∧
    ∃ shown : List FileAssessment,
      shown.Perm ((analysis.found here).filterMap (analysis.alone here settings)) ∧
      (analysis.run here).output = Listing.files false .bugs .compact shown := by
  intro analysis here paths files settings
  have hpaths : analysis.paths.Perm paths := (List.reverse_perm _).symm
  have hfiles : analysis.files here = files := by decide +kernel
  have hspelled : ∀ a ∈ files, ∀ b ∈ files,
      Path.precedes a b = true → Path.precedes b a = true → a = b := by decide
  have hsettings : here.settings analysis.settingsFile = .ok settings := rfl
  obtain ⟨hagrees, hshown⟩ := run_reordered analysis here rearranged_reordered hpaths
    (hfiles ▸ hspelled)
  obtain ⟨-, shown, hperm, -, houtput, -⟩ := hshown settings hsettings (by rw [hfiles]; decide)
  exact ⟨rearranged_reordered, hpaths, hfiles, by decide +kernel, hspelled, hagrees, hsettings,
    by decide +kernel, shown, hperm, houtput⟩

end Analysis

end CommandLine

end Critique
