import Critique.Settings.Discovery
import Critique.Proofs.Files.Path
import Mathlib.Data.List.Find
import Mathlib.Data.List.Infix

/-!
# The nearest settings file

The search goes from the folder where it begins up to the root, one name at a time, and ends at the
first folder that holds a settings file. `finds_nearest`: it depends on nothing else in the tree.
-/

namespace Critique

theorem Utf8.isLonger_iff {t : Text} {bytes : Nat} :
    isLonger bytes t = true ↔ bytes < (encode t).length := by
  induction t generalizing bytes with
  | nil => simp [isLonger, encode]
  | cons c t ih =>
    have hencode : encode (c :: t) = String.utf8EncodeChar c ++ encode t := rfl
    rw [isLonger, Bool.or_eq_true, decide_eq_true_iff, ih, hencode, List.length_append,
      String.length_utf8EncodeChar]
    omega

theorem Utf8.isLonger_reverse (bytes : Nat) (t : Text) :
    isLonger bytes t.reverse = isLonger bytes t := by
  have hlength : (encode t.reverse).length = (encode t).length :=
    ((List.reverse_perm t).flatMap_right String.utf8EncodeChar).length_eq
  rw [Bool.eq_iff_iff, isLonger_iff, isLonger_iff, hlength]

theorem Utf8.isLonger_append {t : Text} {bytes : Nat} (h : isLonger bytes t = true) (rest : Text) :
    isLonger bytes (t ++ rest) = true := by
  rw [isLonger_iff] at h ⊢
  rw [encode, List.flatMap_append, List.length_append]
  exact Nat.lt_add_right _ h

namespace Settings

open Critique.Path (Plain)

variable {tree other : Tree} {start folder path up : Text} {chain : List Text}

-- ---------------------------------------------------------------------------
-- The folders above
-- ---------------------------------------------------------------------------

/-- A folder and all those above it, the nearest first. -/
inductive Ascent : Text → List Text → Prop where
  | root {folder : Text} : Path.parent? folder = none → Ascent folder [folder]
  | step {folder up : Text} {chain : List Text} : Path.parent? folder = some up → Ascent up chain →
      Ascent folder (folder :: chain)

theorem Ascent.exists_cons (h : Ascent folder chain) : ∃ further, chain = folder :: further := by
  cases h with
  | root => exact ⟨[], rfl⟩
  | step => exact ⟨_, rfl⟩

theorem Ascent.plain (h : Ascent folder chain) (hplain : Plain folder) : ∀ d ∈ chain, Plain d := by
  induction h with
  | root => simpa using hplain
  | step hup _ ih =>
    rcases hplain.parent?_cases with ⟨-, hnone⟩ | ⟨up, name, hsome, hplainUp, -⟩
    · cases hup.symm.trans hnone
    · cases hup.symm.trans hsome
      exact List.forall_mem_cons.mpr ⟨hplain, ih hplainUp⟩

/-- One folder for each number of names, down to none at the root. -/
theorem Ascent.steps (h : Ascent folder chain) (hplain : Plain folder) :
    chain.map Path.steps = (Path.steps folder).inits.reverse := by
  induction h with
  | root hroot =>
    rcases hplain.parent?_cases with ⟨hsteps, -⟩ | ⟨up, name, hsome, -⟩
    · simp [hsteps]
    · cases hroot.symm.trans hsome
  | step hup _ ih =>
    rcases hplain.parent?_cases with ⟨-, hnone⟩ | ⟨up, name, hsome, hplainUp, hsteps, -⟩
    · cases hup.symm.trans hnone
    · cases hup.symm.trans hsome
      rw [List.map_cons, ih hplainUp, hsteps, List.inits_append]
      simp

theorem ascent_foldersFrom {fuel : Nat} (h : Plain folder) (hfuel : folder.length < fuel) :
    Ascent folder ((foldersFrom fuel folder.reverse).map List.reverse) := by
  induction fuel generalizing folder with
  | zero => cases hfuel
  | succ fuel ih =>
    rw [foldersFrom, List.map_cons, List.reverse_reverse]
    rcases h.parent?_cases with ⟨-, hnone⟩ | ⟨up, name, hsome, hplain, -, hlength⟩
    · have habove : Path.above? folder.reverse = none := Option.map_eq_none_iff.mp hnone
      rw [habove]
      exact .root hnone
    · obtain ⟨backwards, habove, rfl⟩ := Option.map_eq_some_iff.mp hsome
      rw [habove]
      have hup := ih hplain (Nat.lt_of_lt_of_le hlength (Nat.le_of_lt_succ hfuel))
      rw [List.reverse_reverse] at hup
      exact .step hsome hup

-- ---------------------------------------------------------------------------
-- What a folder holds
-- ---------------------------------------------------------------------------

/-- A file with the name of settings files stands in the folder, and its path can be followed. -/
structure Holds (tree : Tree) (folder : Text) : Prop where
  file : ∃ content, tree.along? (Path.steps folder ++ [fileName]) = some (.file content)
  zeroless : '\x00' ∉ Path.join folder fileName
  path : Utf8.isLonger Tree.longestPath (Path.join folder fileName) = false
  names : ∀ name ∈ Path.steps folder, Utf8.isLonger Tree.longestName name = false

theorem slash_not_mem_fileName : '/' ∉ fileName := by
  decide

theorem isAbsolute_join (h : Plain folder) :
    Path.isAbsolute (Path.join folder fileName) = true := by
  obtain ⟨rest, hjoin⟩ := h.exists_join slash_not_mem_fileName
  cases folder with
  | nil => cases h.absolute
  | cons c folder =>
    rw [hjoin]
    exact h.absolute

theorem isFile_iff_holds (h : Plain folder) :
    tree.isFile ['/'] (Path.join folder fileName) = true ↔ Holds tree folder := by
  have hleg : Path.isLeg fileName = true := by decide
  have hshort : Utf8.isLonger Tree.longestName fileName = false := by decide
  obtain ⟨ps, hpieces, hback, hsteps⟩ := h.exists_pieces_join slash_not_mem_fileName
  have hfollow : ∀ leaf, tree.at? ['/'] (Path.join folder fileName) = .ok leaf ↔
      '\x00' ∉ Path.join folder fileName ∧
      Utf8.isLonger Tree.longestPath (Path.join folder fileName) = false ∧
      (∀ name ∈ Path.steps folder, Utf8.isLonger Tree.longestName name = false) ∧
      tree.along? (Path.steps folder ++ [fileName]) = some leaf := by
    intro leaf
    rw [Tree.at?_of_absolute (isAbsolute_join h), hpieces,
      Tree.follow_concat hleg (by decide) hback, hsteps, List.forall_mem_append,
      List.forall_mem_singleton, and_iff_left hshort]
  simp only [Tree.isFile_iff, hfollow]
  constructor
  · rintro ⟨content, hzero, hpath, hnames, hfile⟩
    exact ⟨⟨content, hfile⟩, hzero, hpath, hnames⟩
  · rintro ⟨⟨content, hfile⟩, hzero, hpath, hnames⟩
    exact ⟨content, hzero, hpath, hnames, hfile⟩

-- ---------------------------------------------------------------------------
-- The search
-- ---------------------------------------------------------------------------

/-- Nothing nearer than this folder of the chain holds a settings file. -/
def Reached (tree : Tree) (chain : List Text) (folder : Text) : Prop :=
  ∃ nearer further, chain = nearer ++ folder :: further ∧ ∀ d ∈ nearer, ¬ Holds tree d

/-- Where the search begins: at the start, or in the folder of a file. -/
def Begins (tree : Tree) (start folder : Text) : Prop :=
  if tree.isFile ['/'] start then
    Path.parent? start = some folder ∧ ∃ name, Path.steps start = Path.steps folder ++ [name]
  else folder = start

/-- The first folder of a chain that holds a settings file. -/
def firstHolder? (tree : Tree) (chain : List Text) : Option Text :=
  chain.find? fun folder => tree.isFile ['/'] (Path.join folder fileName)

theorem firstHolder?_eq_some_iff (hplain : ∀ d ∈ chain, Plain d) :
    firstHolder? tree chain = some folder ↔ Reached tree chain folder ∧ Holds tree folder := by
  rw [firstHolder?, List.find?_eq_some_iff_append]
  constructor
  · rintro ⟨hfile, nearer, further, rfl, hnearer⟩
    refine ⟨⟨nearer, further, rfl, fun d hd hholds => ?_⟩, ?_⟩
    · have hnone := hnearer d hd
      rw [(isFile_iff_holds (hplain d (List.mem_append_left _ hd))).mpr hholds] at hnone
      cases hnone
    · exact (isFile_iff_holds (hplain folder (by simp))).mp hfile
  · rintro ⟨⟨nearer, further, rfl, hnearer⟩, hholds⟩
    refine ⟨(isFile_iff_holds (hplain folder (by simp))).mpr hholds, nearer, further, rfl,
      fun d hd => ?_⟩
    rw [Bool.not_eq_true', ← Bool.not_eq_true]
    exact mt (isFile_iff_holds (hplain d (List.mem_append_left _ hd))).mp (hnearer d hd)

theorem firstHolder?_eq_none_iff (hplain : ∀ d ∈ chain, Plain d) :
    firstHolder? tree chain = none ↔ ∀ d ∈ chain, ¬ Holds tree d := by
  rw [firstHolder?, List.find?_eq_none]
  exact forall₂_congr fun d hd => not_congr (isFile_iff_holds (hplain d hd))

theorem firstHolder?_cons_of_holds (hplain : Plain folder) (h : Holds tree folder) :
    firstHolder? tree (folder :: chain) = some folder :=
  List.find?_cons_of_pos ((isFile_iff_holds hplain).mpr h)

theorem firstHolder?_cons_of_not_holds (hplain : Plain folder) (h : ¬ Holds tree folder) :
    firstHolder? tree (folder :: chain) = firstHolder? tree chain :=
  List.find?_cons_of_neg (mt (isFile_iff_holds hplain).mp h)

/-- Only the folders that the search reaches count. -/
theorem firstHolder?_congr (hplain : ∀ d ∈ chain, Plain d)
    (h : ∀ d, Reached tree chain d → (Holds other d ↔ Holds tree d)) :
    firstHolder? other chain = firstHolder? tree chain := by
  induction chain with
  | nil => rfl
  | cons d chain ih =>
    obtain ⟨hd, hchain⟩ := List.forall_mem_cons.mp hplain
    have hsame := h d ⟨[], chain, rfl, by simp⟩
    by_cases hholds : Holds tree d
    · rw [firstHolder?_cons_of_holds hd hholds, firstHolder?_cons_of_holds hd (hsame.mpr hholds)]
    · rw [firstHolder?_cons_of_not_holds hd hholds,
        firstHolder?_cons_of_not_holds hd (mt hsame.mp hholds)]
      refine ih hchain fun e ⟨nearer, further, hcut, hnearer⟩ => h e ?_
      refine ⟨d :: nearer, further, by rw [hcut, List.cons_append], ?_⟩
      exact List.forall_mem_cons.mpr ⟨hholds, hnearer⟩

/-- Folders whose paths are too long are left out, and hold nothing. -/
theorem exists_nearest? (h : Plain folder) : ∃ chain, Ascent folder chain ∧
    ∀ tree, nearest? tree folder = (firstHolder? tree chain).map (Path.join · fileName) := by
  have hascent := ascent_foldersFrom h (Nat.lt_succ_self _)
  refine ⟨_, hascent, fun tree => ?_⟩
  have hfolders : folders folder = ((foldersFrom (folder.length + 1) folder.reverse).map
      List.reverse).filter (!Utf8.isLonger Tree.longestPath ·) := by
    rw [folders, List.filter_map]
    simp only [Function.comp_def, Utf8.isLonger_reverse]
  rw [nearest?, candidates, hfolders, List.find?_map, List.find?_filter, firstHolder?]
  congr 1
  refine List.find?_congr fun d hd => ?_
  have hplain := hascent.plain h d hd
  rw [Bool.eq_iff_iff, decide_eq_true_iff]
  refine and_iff_right_of_imp fun hfile => ?_
  obtain ⟨rest, hjoin⟩ := hplain.exists_join slash_not_mem_fileName
  have hshort := ((isFile_iff_holds hplain).mp hfile).path
  rw [hjoin] at hshort
  rw [Bool.not_eq_true', ← Bool.not_eq_true]
  intro hlong
  rw [Utf8.isLonger_append hlong] at hshort
  cases hshort

/-- A path to a file leads somewhere, and so there is a folder above it. -/
theorem steps_ne_nil_of_isFile (h : Plain start) (hfile : tree.isFile ['/'] start = true) :
    Path.steps start ≠ [] := by
  obtain ⟨content, hat⟩ := Tree.isFile_iff.mp hfile
  obtain ⟨-, -, hfollow⟩ := (Tree.at?_of_absolute h.absolute).mp hat
  rw [h.steps_eq]
  intro hlegs
  cases tree with
  | folder entries =>
    rw [Tree.follow_of_no_legs hlegs] at hfollow
    cases hfollow
  | file content =>
    cases hpieces : Path.pieces start with
    | nil => exact Text.piecesAt_ne_nil '/' start hpieces
    | cons piece rest =>
      rw [hpieces] at hfollow
      cases hfollow

theorem exists_begins (tree : Tree) (h : Plain start) : ∃ folder, Begins tree start folder ∧
    Plain folder ∧ ∀ other : Tree, other.isFile ['/'] start = tree.isFile ['/'] start →
      find? other start = nearest? other folder := by
  unfold Begins
  cases hfile : tree.isFile ['/'] start with
  | false =>
    refine ⟨start, (if_neg Bool.false_ne_true).mpr rfl, h, fun other hother => ?_⟩
    rw [find?, hother, if_neg Bool.false_ne_true]
  | true =>
    rcases h.parent?_cases with ⟨hroot, -⟩ | ⟨folder, name, hparent, hplain, hsteps, -⟩
    · exact absurd hroot (steps_ne_nil_of_isFile h hfile)
    · refine ⟨folder, (if_pos rfl).mpr ⟨hparent, name, hsteps⟩, hplain, fun other hother => ?_⟩
      rw [find?, hother, if_pos rfl, hparent, Option.bind_some]

/-- The settings file is that of the nearest folder that holds one, from the start (the folder
above, if a file stands there) up to the root; a folder of that name does not count as one. The
search depends on what it has to look at, and on nothing else in the tree. -/
theorem finds_nearest (tree : Tree) (h : Plain start) :
    ∃ folder chain, Begins tree start folder ∧ Ascent folder chain ∧
      chain.map Path.steps = (Path.steps folder).inits.reverse ∧
      (∀ path, find? tree start = some path ↔ ∃ holder,
        Reached tree chain holder ∧ Holds tree holder ∧ path = Path.join holder fileName) ∧
      (find? tree start = none ↔ ∀ d ∈ chain, ¬ Holds tree d) ∧
      (∀ d ∈ chain, ∀ entries,
        tree.along? (Path.steps d ++ [fileName]) = some (.folder entries) →
        find? tree start ≠ some (Path.join d fileName)) ∧
      ∀ other : Tree, other.isFile ['/'] start = tree.isFile ['/'] start →
        (∀ d, Reached tree chain d → (Holds other d ↔ Holds tree d)) →
        find? other start = find? tree start := by
  obtain ⟨folder, hbegins, hfolder, hfind⟩ := exists_begins tree h
  obtain ⟨chain, hascent, hnearest⟩ := exists_nearest? hfolder
  have hplain := hascent.plain hfolder
  have hfirst : ∀ other : Tree, other.isFile ['/'] start = tree.isFile ['/'] start →
      find? other start = (firstHolder? other chain).map (Path.join · fileName) :=
    fun other hother => (hfind other hother).trans (hnearest other)
  have hsome : ∀ path, find? tree start = some path ↔ ∃ holder,
      Reached tree chain holder ∧ Holds tree holder ∧ path = Path.join holder fileName := by
    intro path
    rw [hfirst tree rfl, Option.map_eq_some_iff]
    simp only [firstHolder?_eq_some_iff hplain, and_assoc, eq_comm]
  refine ⟨folder, chain, hbegins, hascent, hascent.steps hfolder, hsome, ?none, ?named, ?other⟩
  case none => rw [hfirst tree rfl, Option.map_eq_none_iff, firstHolder?_eq_none_iff hplain]
  case named =>
    intro d hd entries hentry hfound
    obtain ⟨holder, ⟨nearer, further, hcut, -⟩, hholds, hpath⟩ := (hsome _).mp hfound
    have hholder : holder ∈ chain := hcut ▸ List.mem_append_right _ List.mem_cons_self
    have hfile := (isFile_iff_holds (hplain holder hholder)).mpr hholds
    rw [← hpath, isFile_iff_holds (hplain d hd)] at hfile
    obtain ⟨content, hcontent⟩ := hfile.file
    cases hentry.symm.trans hcontent
  case other =>
    intro other hother hsame
    rw [hfirst other hother, hfirst tree rfl, firstHolder?_congr hplain hsame]

/-- A project whose program stands beside a folder with the name of a settings file. -/
def crowdedProject : Tree :=
  .folder [("work".toList, .folder [
    (fileName, .file []),
    ("app".toList, .folder [("main.py".toList, .file []), (fileName, .folder [])])])]

/-- The search begins in the folder of the program, passes the folder there, and ends above. -/
theorem finds_nearest_past_folder : Plain "/work/app/main.py" ∧ ∃ further,
    Ascent "/work/app" ("/work/app".toList :: "/work".toList :: further) ∧
    Reached crowdedProject ("/work/app".toList :: "/work".toList :: further) "/work" ∧
    find? crowdedProject "/work/app/main.py" = some "/work/code-sensei.toml".toList := by
  have hplain : Plain "/work/app/main.py" := ⟨by decide, by decide⟩
  obtain ⟨folder, chain, hbegins, hascent, -, hfound, -⟩ := finds_nearest crowdedProject hplain
  have hfile : crowdedProject.isFile ['/'] "/work/app/main.py" = true := by decide
  have hfolder : folder = "/work/app".toList := by
    rw [Begins, if_pos hfile] at hbegins
    exact Option.some.inj (hbegins.1.symm.trans (by decide))
  have hup : Path.parent? "/work/app" = some "/work".toList := by decide
  subst hfolder
  cases hascent with
  | root hroot => cases hup.symm.trans hroot
  | step hparent hrest =>
    cases hup.symm.trans hparent
    obtain ⟨further, rfl⟩ := hrest.exists_cons
    have hreached : Reached crowdedProject ("/work/app".toList :: "/work".toList :: further)
        "/work" := by
      refine ⟨["/work/app".toList], further, rfl, List.forall_mem_singleton.mpr ?_⟩
      rintro ⟨⟨content, hcontent⟩, -, -, -⟩
      cases hcontent
    have hholds : Holds crowdedProject "/work" :=
      ⟨⟨[], by rfl⟩, by decide, by decide, by decide⟩
    exact ⟨hplain, further, .step hparent hrest, hreached,
      (hfound _).mpr ⟨_, hreached, hholds, by decide⟩⟩

end Settings

end Critique
