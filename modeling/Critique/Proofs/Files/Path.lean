import Critique.Files.Tree
import Critique.Proofs.Text.Lines
import Mathlib.Data.List.Basic

/-!
# Plain paths

A path that starts at the root and never leads back leads through names alone. Lone dots and
slashes next to one another do not count, so that `parent?` cuts off the last name and nothing
else (`Plain.parent?_cases`), and what stands at the path can be told from its names
(`Tree.follow_concat`).
-/

namespace Critique

namespace Path

variable {path folder name backwards up : Text}

/-- A path from the root that never leads back. -/
structure Plain (path : Text) : Prop where
  absolute : isAbsolute path = true
  forward : ['.', '.'] ∉ pieces path

-- ---------------------------------------------------------------------------
-- Legs
-- ---------------------------------------------------------------------------

/-- Whether a piece of a path leads anywhere. -/
def isLeg (piece : Text) : Bool := !(piece.isEmpty || piece == ['.'])

/-- The pieces of a path that lead anywhere, two dots among them. -/
def legs (path : Text) : List Text := (pieces path).filter isLeg

theorem pieces_append (a b : Text) : pieces (a ++ '/' :: b) = pieces a ++ pieces b :=
  Text.piecesAt_append a b

theorem legs_append (a b : Text) : legs (a ++ '/' :: b) = legs a ++ legs b := by
  rw [legs, pieces_append, List.filter_append, legs, legs]

theorem pieces_name (h : '/' ∉ name) : pieces name = [name] := Text.piecesAt_of_not_mem h

theorem legs_name (h : '/' ∉ name) (hleg : isLeg name = true) : legs name = [name] := by
  rw [legs, pieces_name h, List.filter_cons_of_pos hleg, List.filter_nil]

theorem back_mem_legs : ['.', '.'] ∈ legs path ↔ ['.', '.'] ∈ pieces path :=
  List.mem_filter.trans (and_iff_left (by decide))

theorem foldl_steps {ps : List Text} (h : ['.', '.'] ∉ ps) (names : List Text) :
    ps.foldl (fun names piece =>
      if piece.isEmpty || piece == ['.'] then names
      else if piece == ['.', '.'] then names.dropLast
      else names ++ [piece]) names = names ++ ps.filter isLeg := by
  induction ps generalizing names with
  | nil => simp
  | cons piece ps ih =>
    obtain ⟨hne, hps⟩ := List.ne_and_not_mem_of_not_mem_cons h
    rw [List.foldl_cons, ih hps]
    by_cases hleg : piece.isEmpty || piece == ['.']
    · rw [if_pos hleg, List.filter_cons_of_neg (by simp [isLeg, hleg])]
    · rw [if_neg hleg, if_neg (by simpa using Ne.symm hne),
        List.filter_cons_of_pos (by simp [isLeg, hleg]), List.append_assoc, List.singleton_append]

theorem Plain.steps_eq (h : Plain path) : steps path = legs path := foldl_steps h.forward []

theorem Plain.join_eq (h : Plain folder) (hslash : '/' ∉ name) : join folder name =
    if folder.getLast? = some '/' then folder ++ name else folder ++ '/' :: name := by
  have hfolder : folder.isEmpty = false := by
    cases folder with
    | nil => cases h.absolute
    | cons => rfl
  have hname : isAbsolute name = false := by
    cases name with
    | nil => rfl
    | cons c name => simpa [isAbsolute] using Ne.symm (List.ne_of_not_mem_cons hslash)
  rw [join, hfolder, hname, Bool.or_false, if_neg Bool.false_ne_true]

theorem Plain.exists_join (h : Plain folder) (hslash : '/' ∉ name) :
    ∃ rest, join folder name = folder ++ rest := by
  rw [h.join_eq hslash]
  split
  · exact ⟨_, rfl⟩
  · exact ⟨_, rfl⟩

/-- A name under a plain path is one more piece, behind pieces that lead where the path leads. -/
theorem Plain.exists_pieces_join (h : Plain folder) (hslash : '/' ∉ name) :
    ∃ ps, pieces (join folder name) = ps ++ [name] ∧ ['.', '.'] ∉ ps ∧
      ps.filter isLeg = steps folder := by
  have hforward := h.forward
  rw [h.steps_eq, h.join_eq hslash]
  split
  case isTrue hlast =>
    obtain ⟨front, rfl⟩ := List.getLast?_eq_some_iff.mp hlast
    rw [pieces_append] at hforward
    refine ⟨pieces front, ?_, fun hmem => hforward (List.mem_append_left _ hmem), ?_⟩
    · rw [List.append_assoc, List.singleton_append, pieces_append, pieces_name hslash]
    · rw [legs_append]
      exact (List.append_nil _).symm
  case isFalse =>
    exact ⟨pieces folder, by rw [pieces_append, pieces_name hslash], hforward, rfl⟩

-- ---------------------------------------------------------------------------
-- The end of a path
-- ---------------------------------------------------------------------------

theorem trim_suffix (backwards : Text) : trim backwards <:+ backwards := by
  fun_induction trim backwards with
  | case1 rest ih => exact ih.trans (List.suffix_cons _ _)
  | case2 rest ih => exact (ih.trans (List.suffix_cons _ _)).trans (List.suffix_cons _ _)
  | case3 t => exact List.suffix_rfl

theorem trim_ne (backwards rest : Text) :
    trim backwards ≠ '/' :: rest ∧ trim backwards ≠ '.' :: '/' :: rest := by
  fun_induction trim backwards with
  | case1 _ ih => exact ih
  | case2 _ ih => exact ih
  | case3 t hslash hdot => exact ⟨hslash rest, hdot rest⟩

theorem legs_trim (backwards : Text) : legs (trim backwards).reverse = legs backwards.reverse := by
  fun_induction trim backwards with
  | case1 rest ih =>
    rw [List.reverse_cons, legs_append, ih]
    exact (List.append_nil _).symm
  | case2 rest ih =>
    rw [List.reverse_cons, List.reverse_cons, List.append_assoc, List.singleton_append, legs_append,
      ih]
    exact (List.append_nil _).symm
  | case3 t => rfl

theorem getLast?_of_suffix {a b : Text} (h : a <:+ b) (ha : a ≠ []) : a.getLast? = b.getLast? := by
  obtain ⟨front, rfl⟩ := h
  rw [List.getLast?_append_of_ne_nil front ha]

/-- What is left of a text that ends in a slash starts with a name. -/
theorem exists_trim (hlast : backwards.getLast? = some '/') (hne : trim backwards ≠ []) :
    ∃ name rest, trim backwards = name ++ '/' :: rest ∧ '/' ∉ name ∧ isLeg name.reverse = true := by
  have hmem : '/' ∈ trim backwards := by
    refine List.mem_of_getLast? ?_
    rw [getLast?_of_suffix (trim_suffix backwards) hne, hlast]
  obtain ⟨name, rest, hkept, hslash⟩ := List.eq_append_cons_of_mem hmem
  refine ⟨name, rest, hkept, hslash, ?_⟩
  have hempty : name ≠ [] := by
    rintro rfl
    exact (trim_ne backwards rest).1 hkept
  have hdot : name ≠ ['.'] := by
    rintro rfl
    exact (trim_ne backwards rest).2 hkept
  simp [isLeg, hempty, List.reverse_eq_cons_iff, hdot]

theorem above?_eq_none (h : trim backwards = []) : above? backwards = none := by
  simp [above?, h]

theorem above?_eq_some {rest : Text} (h : trim backwards = name ++ '/' :: rest)
    (hslash : '/' ∉ name) :
    above? backwards = some (if trim rest = [] then ['/'] else trim rest) := by
  have habove : (name ++ '/' :: rest).dropWhile (· != '/') = '/' :: rest := by
    rw [List.dropWhile_append_of_pos fun c hc => bne_iff_ne.mpr (ne_of_mem_of_not_mem hc hslash)]
    rfl
  simp [above?, h, habove, trim]

/-- Above a path that leads somewhere stands one that is shorter by the last name. -/
theorem exists_above? (hlast : backwards.getLast? = some '/') (hne : trim backwards ≠ []) :
    ∃ up name, above? backwards = some up ∧ up.getLast? = some '/' ∧
      legs backwards.reverse = legs up.reverse ++ [name] ∧ up.length < backwards.length := by
  obtain ⟨name, rest, hcut, hslash, hleg⟩ := exists_trim hlast hne
  refine ⟨_, name.reverse, above?_eq_some hcut hslash, ?_⟩
  have hsuffix : name ++ '/' :: rest <:+ backwards := hcut ▸ trim_suffix backwards
  have hlegs : legs backwards.reverse = legs (trim rest).reverse ++ [name.reverse] := by
    rw [← legs_trim, hcut, legs_trim, List.reverse_append, List.reverse_cons, List.append_assoc,
      List.singleton_append, legs_append, legs_name (by simpa using hslash) hleg]
  by_cases hroot : trim rest = []
  · rw [if_pos hroot]
    rw [hroot] at hlegs
    refine ⟨rfl, hlegs, ?_⟩
    have hname : name ≠ [] := by
      rintro rfl
      cases hleg
    have hlong := hsuffix.length_le
    have hshort := List.length_pos_of_ne_nil hname
    rw [List.length_append, List.length_cons] at hlong
    rw [List.length_singleton]
    omega
  · rw [if_neg hroot]
    have hrest : trim rest <:+ '/' :: rest := (trim_suffix rest).trans (List.suffix_cons _ _)
    refine ⟨?_, hlegs, ?_⟩
    · rw [getLast?_of_suffix ((hrest.trans (List.suffix_append name _)).trans hsuffix) hroot, hlast]
    · have hlong := hsuffix.length_le
      have hshort := (trim_suffix rest).length_le
      rw [List.length_append, List.length_cons] at hlong
      omega

/-- The path above a plain path is plain and shorter by the last name. The root has none above. -/
theorem Plain.parent?_cases (h : Plain path) :
    (steps path = [] ∧ parent? path = none) ∨
    ∃ up name, parent? path = some up ∧ Plain up ∧ steps path = steps up ++ [name] ∧
      up.length < path.length := by
  have hlast : path.reverse.getLast? = some '/' := by
    rw [List.getLast?_reverse]
    exact beq_iff_eq.mp h.absolute
  rw [h.steps_eq]
  by_cases hkept : trim path.reverse = []
  · refine .inl ⟨?_, by rw [parent?, above?_eq_none hkept, Option.map_none]⟩
    have hlegs := legs_trim path.reverse
    rw [hkept, List.reverse_reverse] at hlegs
    exact hlegs.symm
  · obtain ⟨up, name, habove, huplast, hlegs, hlength⟩ := exists_above? hlast hkept
    rw [List.reverse_reverse] at hlegs
    have hplain : Plain up.reverse := by
      refine ⟨?_, fun hback => ?_⟩
      · rw [isAbsolute, List.head?_reverse, huplast]
        rfl
      · refine h.forward (back_mem_legs.mp ?_)
        rw [hlegs]
        exact List.mem_append_left _ (back_mem_legs.mpr hback)
    refine .inr ⟨up.reverse, name, by rw [parent?, habove, Option.map_some], hplain, ?_, ?_⟩
    · rw [hplain.steps_eq, hlegs]
    · simpa using hlength

end Path

-- ---------------------------------------------------------------------------
-- Along names
-- ---------------------------------------------------------------------------

namespace Tree

open Critique.Path (isLeg)

variable {above : List Tree} {tree leaf : Tree} {entries : List (Text × Tree)} {ps : List Text}
  {name : Text}

/-- What names lead to, each in the folder that the ones before it lead to. -/
def along? (tree : Tree) (names : List Text) : Option Tree :=
  names.foldlM (fun inner name => inner.entries.lookup name) tree

theorem along?_cons (tree : Tree) (name : Text) (names : List Text) :
    tree.along? (name :: names) = (tree.entries.lookup name).bind (along? · names) := rfl

theorem follow_noise (h : isLeg name = false) (rest : List Text) :
    follow above (.folder entries) (name :: rest) = follow above (.folder entries) rest := by
  have hnoise : (name.isEmpty || name == ['.']) = true := by
    rwa [isLeg, Bool.not_eq_false'] at h
  simp only [follow, hnoise, if_true]

theorem follow_leg (hleg : isLeg name = true) (hname : name ≠ ['.', '.']) (rest : List Text) :
    follow above tree (name :: rest) = .ok leaf ↔ Utf8.isLonger longestName name = false ∧
      ∃ inner, tree.entries.lookup name = some inner ∧
        follow (tree :: above) inner rest = .ok leaf := by
  have hcounts : (name.isEmpty || name == ['.']) = false := by
    rwa [isLeg, Bool.not_eq_true'] at hleg
  have hforward : (name == ['.', '.']) = false := beq_eq_false_iff_ne.mpr hname
  cases tree with
  | file content => simp [follow, Tree.entries]
  | folder entries =>
    simp only [follow, hcounts, hforward, Bool.false_eq_true, if_false, Tree.entries]
    cases Utf8.isLonger longestName name with
    | true => simp
    | false => cases entries.lookup name <;> simp

theorem follow_of_no_legs (h : ps.filter isLeg = []) :
    follow above (.folder entries) ps = .ok (.folder entries) := by
  induction ps with
  | nil => rfl
  | cons piece ps ih =>
    obtain ⟨hpiece, hps⟩ := List.forall_mem_cons.mp (List.filter_eq_nil_iff.mp h)
    rw [follow_noise ((Bool.not_eq_true _).mp hpiece), ih (List.filter_eq_nil_iff.mpr hps)]

theorem follow_concat (hleg : isLeg name = true) (hname : name ≠ ['.', '.'])
    (hback : ['.', '.'] ∉ ps) : follow above tree (ps ++ [name]) = .ok leaf ↔
      (∀ step ∈ ps.filter isLeg ++ [name], Utf8.isLonger longestName step = false) ∧
      tree.along? (ps.filter isLeg ++ [name]) = some leaf := by
  induction ps generalizing above tree with
  | nil =>
    rw [List.nil_append, follow_leg hleg hname]
    simp [follow, along?]
  | cons piece ps ih =>
    obtain ⟨hpiece, hps⟩ := List.ne_and_not_mem_of_not_mem_cons hback
    rw [List.cons_append]
    by_cases hstep : isLeg piece = true
    · rw [follow_leg hstep (Ne.symm hpiece), List.filter_cons_of_pos hstep, List.cons_append,
        List.forall_mem_cons, along?_cons, Option.bind_eq_some_iff]
      simp only [ih hps]
      tauto
    · rw [List.filter_cons_of_neg hstep]
      cases tree with
      | file content => cases ps.filter isLeg <;> simp [follow, along?, Tree.entries]
      | folder entries => rw [follow_noise ((Bool.not_eq_true _).mp hstep), ih hps]

theorem isFile_iff {folder path : Text} : tree.isFile folder path = true ↔
    ∃ content, tree.at? folder path = .ok (.file content) := by
  unfold isFile
  split
  case h_1 content h => exact iff_of_true rfl ⟨content, h⟩
  case h_2 h => exact iff_of_false Bool.false_ne_true fun ⟨content, hfile⟩ => h content hfile

theorem at?_of_absolute {folder path : Text} (h : Path.isAbsolute path = true) :
    tree.at? folder path = .ok leaf ↔ '\x00' ∉ path ∧ Utf8.isLonger longestPath path = false ∧
      follow [] tree (Path.pieces path) = .ok leaf := by
  have hne : path.isEmpty = false := by
    cases path with
    | nil => cases h
    | cons => rfl
  have hzero : path.any (· == '\x00') = true ↔ '\x00' ∈ path := by simp
  have hjoin : Path.join folder path = path := by simp [Path.join, h]
  unfold at?
  rw [hne, hjoin]
  by_cases hmem : '\x00' ∈ path
  · simp [hzero.mpr hmem, hmem]
  · rw [if_neg (mt hzero.mp hmem)]
    cases Utf8.isLonger longestPath path <;> simp [hmem]

end Tree

end Critique
