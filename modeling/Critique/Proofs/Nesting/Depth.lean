import Critique.Proofs.Growth.Lines
import Critique.Proofs.Layout.Margin
import Critique.Proofs.Layout.Tree
import Critique.Proofs.Nesting.Braces

/-!
# Nesting depth, read another way

The nesting depth keeps count of braces and of indented blocks at once. `depth_between`: it is no
less than the largest excess of opening braces in the visible code, no less than the largest number
of block headers on a path of the tree of indentation, and no more than the two together.
-/

namespace Critique.Nesting

open Layout (Ancestor)

/-- A line beside what is visible of it. -/
structure Row where
  line : Text
  seen : Text

namespace Row

def code (row : Row) : Text := Text.trim row.seen

/-- How far the line is indented, unless nothing is visible of it. -/
def width? (row : Row) : Option Nat :=
  if row.code.isEmpty then none else some (Layout.indent row.line)

def opens (row : Row) : Bool := opensBlock row.code

theorem width?_of_opens {row : Row} (h : row.opens = true) :
    row.width? = some (Layout.indent row.line) := by
  rw [width?, if_neg]
  intro hempty
  simp [opens, List.isEmpty_iff.mp hempty, opensBlock] at h

end Row

/-- The lines as they are read one after the other, from inside a comment or not. -/
def scanned : (inComment : Bool) → List Text → List Row
  | _, [] => []
  | inComment, line :: lines =>
    let (seen, inComment) := Scan.line inComment line
    ⟨line, seen⟩ :: scanned inComment lines

def rowsOf (code : Text) : List Row := scanned false (Text.lines code)

/-- What is visible of a submission, line by line. -/
def visibleCode (code : Text) : Text := (rowsOf code).flatMap Row.seen

def widthAt (rows : List Row) (i : Nat) : Option Nat := (rows[i]?).bind Row.width?

def opensAt (rows : List Row) (i : Nat) : Bool := (rows[i]?).any Row.opens

/-- The headers among a line and its ancestors. -/
def headersTo (rows : List Row) (i : Nat) : List Nat :=
  (List.range (i + 1)).filter fun a =>
    opensAt rows a && decide (a = i ∨ Ancestor (widthAt rows) a i)

/-- The largest number of headers on the way to a header. -/
def mostBlocks (rows : List Row) : Nat :=
  (((List.range rows.length).filter (opensAt rows)).map fun i =>
    (headersTo rows i).length).foldr max 0

-- ---------------------------------------------------------------------------
-- Rows are read one by one
-- ---------------------------------------------------------------------------

def State.read (state : State) (row : Row) : State :=
  if row.code.isEmpty then state else state.enter (Layout.indent row.line) row.code

theorem State.enter_eq (state : State) (indent : Nat) (code : Text) :
    state.enter indent code =
      let blocks := state.blocks.dropWhile (indent ≤ ·)
      let counts := code.foldl (brace blocks.length) (state.braces, state.deepest)
      { state with
        braces := counts.1
        blocks := if opensBlock code then indent :: blocks else blocks
        deepest := if opensBlock code then max counts.2 (counts.1 + (blocks.length + 1))
          else counts.2 } := by
  unfold enter
  simp only
  split <;> rfl

theorem State.next_eq_read (state : State) (inComment : Bool) (line : Text) :
    { state with inComment }.next line =
      { state.read ⟨line, (Scan.line inComment line).1⟩ with
        inComment := (Scan.line inComment line).2 } := by
  rw [next_eq, read, Row.code]
  simp only
  split
  · rfl
  · simp only [enter_eq]

/-- Lines are read row by row; only what the scanner is in at the end is kept apart. -/
theorem exists_run_eq (state : State) (inComment : Bool) (lines : List Text) :
    ∃ isOpen, run { state with inComment } lines =
      { (scanned inComment lines).foldl State.read state with inComment := isOpen } := by
  induction lines generalizing state inComment with
  | nil => exact ⟨inComment, rfl⟩
  | cons line lines ih =>
    rw [run, List.foldl_cons, State.next_eq_read, scanned, List.foldl_cons]
    exact ih _ _

theorem depth_eq (code : Text) : depth code = ((rowsOf code).foldl State.read .start).deepest := by
  obtain ⟨isOpen, h⟩ := exists_run_eq .start false (Text.lines code)
  exact (congrArg State.deepest h :)

-- ---------------------------------------------------------------------------
-- Blocks that are open
-- ---------------------------------------------------------------------------

variable {rows : List Row} {row : Row} {state : State} {n a w : Nat}

theorem width_of_opensAt (h : opensAt rows a = true) : ∃ w, widthAt rows a = some w := by
  obtain ⟨row, hrow, hopens⟩ := (Option.any_eq_true _ _).mp h
  exact ⟨_, by rw [widthAt, hrow, Option.bind_some, Row.width?_of_opens hopens]⟩

/-- Whether all rows behind a header and before the `n`th are deeper. -/
def StaysOpen (rows : List Row) (n a : Nat) : Prop :=
  ∀ k < n, a < k → ∀ u ∈ widthAt rows k, ∀ v ∈ widthAt rows a, v < u

instance : Decidable (StaysOpen rows n a) :=
  inferInstanceAs (Decidable (∀ _ < _, _ → _))

/-- The headers before the `n`th row whose blocks are open there, innermost first. -/
def openBefore (rows : List Row) (n : Nat) : List Nat :=
  (List.range n).reverse.filter fun a => opensAt rows a && decide (StaysOpen rows n a)

theorem mem_openBefore : a ∈ openBefore rows n ↔
    a < n ∧ opensAt rows a = true ∧ StaysOpen rows n a := by
  simp [openBefore]

theorem staysOpen_succ (h : widthAt rows n = none) :
    StaysOpen rows (n + 1) a ↔ StaysOpen rows n a := by
  refine ⟨fun ha k hk => ha k (by omega), fun ha k hk hak u hu => ?_⟩
  rcases Nat.lt_succ_iff_lt_or_eq.mp hk with hk | rfl
  · exact ha k hk hak u hu
  · simp [h] at hu

theorem staysOpen_succ_of_width (h : widthAt rows n = some w) (ha : a < n) :
    StaysOpen rows (n + 1) a ↔ StaysOpen rows n a ∧ ∀ v ∈ widthAt rows a, v < w := by
  constructor
  · exact fun hopen => ⟨fun k hk => hopen k (by omega), hopen n (by omega) ha w h⟩
  · rintro ⟨hopen, hw⟩ k hk hak u hu
    rcases Nat.lt_succ_iff_lt_or_eq.mp hk with hk | rfl
    · exact hopen k hk hak u hu
    · rwa [Option.mem_unique hu h]

theorem staysOpen_self : StaysOpen rows (n + 1) n := fun k hk hnk => by omega

theorem openBefore_succ_of_none (h : widthAt rows n = none) :
    openBefore rows (n + 1) = openBefore rows n := by
  have hn : opensAt rows n = false := by
    cases ho : opensAt rows n with
    | false => rfl
    | true =>
      obtain ⟨w, hw⟩ := width_of_opensAt ho
      simp [h] at hw
  simp only [openBefore, List.range_succ, List.reverse_append, List.reverse_singleton,
    List.singleton_append, List.filter_cons, hn, Bool.false_and, Bool.false_eq_true, if_false,
    staysOpen_succ h]

/-- A row closes the blocks that are not less indented, and may open its own. -/
theorem openBefore_succ_of_width (h : widthAt rows n = some w) :
    openBefore rows (n + 1) =
      (if opensAt rows n then [n] else []) ++
        (openBefore rows n).filter fun a => ∀ v ∈ widthAt rows a, v < w := by
  have hrest : (List.range n).reverse.filter
        (fun a => opensAt rows a && decide (StaysOpen rows (n + 1) a)) =
      (openBefore rows n).filter fun a => ∀ v ∈ widthAt rows a, v < w := by
    rw [openBefore, List.filter_filter]
    refine List.filter_congr fun a ha => ?_
    have ha : a < n := by simpa using ha
    simp only [staysOpen_succ_of_width h ha, Bool.decide_and]
    cases opensAt rows a <;> simp [Bool.and_comm]
  rw [← hrest, openBefore, List.range_succ, List.reverse_append, List.reverse_singleton,
    List.singleton_append, List.filter_cons]
  simp only [staysOpen_self, decide_true, Bool.and_true]
  split <;> rfl

/-- At a header the open blocks are its own and those of the headers above it. -/
theorem length_headersTo (h : opensAt rows n = true) :
    (headersTo rows n).length = (openBefore rows (n + 1)).length := by
  obtain ⟨w, hw⟩ := width_of_opensAt h
  rw [openBefore, List.filter_reverse, List.length_reverse, headersTo]
  congr 1
  refine List.filter_congr fun a ha => ?_
  have ha : a < n + 1 := by simpa using ha
  cases hopens : opensAt rows a with
  | false => rfl
  | true =>
    obtain ⟨v, hv⟩ := width_of_opensAt hopens
    simp only [Bool.true_and, decide_eq_decide, Layout.ancestor_iff, Layout.Encloses, hv, hw,
      StaysOpen, Option.mem_some_iff, Option.isSome_some, true_and, exists_eq_left', forall_eq']
    rcases Nat.lt_succ_iff_lt_or_eq.mp ha with ha | rfl
    · simp only [ha, Nat.ne_of_lt ha, false_or, true_and, Nat.lt_succ_iff]
    · simp only [true_or, true_iff]
      exact fun k hk hak => by omega

theorem headersTo_le (h : opensAt rows n = true) :
    (headersTo rows n).length ≤ mostBlocks rows := by
  have hn : n < rows.length := by
    obtain ⟨row, hrow, -⟩ := (Option.any_eq_true _ _).mp h
    exact (List.getElem?_eq_some_iff.mp hrow).1
  refine List.le_max_of_le (List.mem_map_of_mem (a := n) ?_) (Nat.le_refl _)
  simp [hn, h]

theorem length_openBefore_le (rows : List Row) (n : Nat) :
    (openBefore rows n).length ≤ mostBlocks rows := by
  induction n with
  | zero => exact Nat.zero_le _
  | succ n ih =>
    cases hw : widthAt rows n with
    | none => rwa [openBefore_succ_of_none hw]
    | some w =>
      cases hopens : opensAt rows n with
      | true => exact length_headersTo hopens ▸ headersTo_le hopens
      | false =>
        rw [openBefore_succ_of_width hw, hopens, if_neg Bool.false_ne_true, List.nil_append]
        exact Nat.le_trans List.filter_sublist.length_le ih

def indentAt (rows : List Row) (a : Nat) : Nat := (widthAt rows a).getD 0

/-- The innermost block is indented deepest. -/
theorem openBefore_pairwise (rows : List Row) (n : Nat) :
    (openBefore rows n).Pairwise fun a b => indentAt rows b < indentAt rows a := by
  have hrange : (List.range n).reverse.Pairwise (· > ·) := by
    simpa [List.pairwise_reverse] using List.pairwise_lt_range
  refine (hrange.filter _).imp_of_mem fun {a b} ha hb hab => ?_
  obtain ⟨han, hopens, -⟩ := mem_openBefore.mp ha
  obtain ⟨-, hopens', hstays⟩ := mem_openBefore.mp hb
  obtain ⟨u, hu⟩ := width_of_opensAt hopens
  obtain ⟨v, hv⟩ := width_of_opensAt hopens'
  rw [indentAt, indentAt, hu, hv]
  exact hstays a han hab u hu v hv

theorem dropWhile_map_eq {f : Nat → Nat} {l : List Nat} (h : l.Pairwise fun a b => f b < f a)
    (w : Nat) : (l.map f).dropWhile (w ≤ ·) = (l.filter fun a => f a < w).map f := by
  induction h with
  | nil => rfl
  | @cons a l hhead _ ih =>
    rcases Nat.lt_or_ge (f a) w with ha | ha
    · have hall : (a :: l).filter (fun b => f b < w) = a :: l := by
        refine List.filter_eq_self.mpr (List.forall_mem_cons.mpr ⟨by simpa using ha, ?_⟩)
        exact fun b hb => by simpa using Nat.lt_trans (hhead b hb) ha
      rw [hall, List.map_cons, List.dropWhile_cons_of_neg (by simpa using ha)]
    · rw [List.map_cons, List.dropWhile_cons_of_pos (by simpa using ha), ih,
        List.filter_cons_of_neg (by simpa using ha)]

theorem dropWhile_openBefore (rows : List Row) (n w : Nat) :
    ((openBefore rows n).map (indentAt rows)).dropWhile (w ≤ ·) =
      ((openBefore rows n).filter fun a => ∀ v ∈ widthAt rows a, v < w).map (indentAt rows) := by
  rw [dropWhile_map_eq (openBefore_pairwise rows n)]
  congr 1
  refine List.filter_congr fun a ha => ?_
  obtain ⟨v, hv⟩ := width_of_opensAt (mem_openBefore.mp ha).2.1
  simp [indentAt, hv]

-- ---------------------------------------------------------------------------
-- A run over the rows
-- ---------------------------------------------------------------------------

/-- Open braces and largest excess before the `n`th row. -/
def bracesBefore (rows : List Row) (n : Nat) : Nat × Nat :=
  ((rows.take n).flatMap Row.seen).foldl (brace 0) (0, 0)

/-- What is known before the `n`th row is read. -/
structure Reads (rows : List Row) (n : Nat) (state : State) : Prop where
  counts : Raises (mostBlocks rows) (bracesBefore rows n) (state.braces, state.deepest)
  blocks : state.blocks = (openBefore rows n).map (indentAt rows)
  headers : ∀ i < n, opensAt rows i = true → (headersTo rows i).length ≤ state.deepest

theorem reads_start (rows : List Row) : Reads rows 0 .start := by
  refine ⟨⟨rfl, ?_, ?_⟩, rfl, fun i hi => by omega⟩
  · simp [bracesBefore, State.start]
  · simp [bracesBefore, State.start]

theorem bracesBefore_succ (hrow : rows[n]? = some row) :
    bracesBefore rows (n + 1) = row.code.foldl (brace 0) (bracesBefore rows n) := by
  rw [bracesBefore, List.take_add_one, hrow, Option.toList_some, List.flatMap_append,
    List.foldl_append, List.flatMap_singleton, Row.code, foldl_brace_trim, bracesBefore]

theorem Reads.read_empty (h : Reads rows n state) (hrow : rows[n]? = some row)
    (hempty : row.code.isEmpty = true) : Reads rows (n + 1) (state.read row) := by
  have hwidth : widthAt rows n = none := by
    rw [widthAt, hrow, Option.bind_some, Row.width?, if_pos hempty]
  have hcode : row.code = [] := List.isEmpty_iff.mp hempty
  rw [State.read, if_pos hempty]
  refine ⟨?_, by rw [openBefore_succ_of_none hwidth, h.blocks], fun i hi hopens => ?_⟩
  · rw [bracesBefore_succ hrow, hcode]
    exact h.counts
  · rcases Nat.lt_succ_iff_lt_or_eq.mp hi with hi | rfl
    · exact h.headers i hi hopens
    · obtain ⟨w, hw⟩ := width_of_opensAt hopens
      simp [hwidth] at hw

theorem bracesBefore_le (rows : List Row) (n : Nat) :
    (bracesBefore rows n).1 ≤ (bracesBefore rows n).2 := (tallies_foldl _).end_le_most

theorem Reads.read_code (h : Reads rows n state) (hrow : rows[n]? = some row)
    (hcode : row.code.isEmpty = false) : Reads rows (n + 1) (state.read row) := by
  have hwidth : widthAt rows n = some (Layout.indent row.line) := by
    rw [widthAt, hrow, Option.bind_some, Row.width?, hcode, if_neg Bool.false_ne_true]
  have hopens : opensAt rows n = opensBlock row.code := by
    rw [opensAt, hrow, Option.any_some, Row.opens]
  have hnext := openBefore_succ_of_width hwidth
  have hleft := dropWhile_openBefore rows n (Layout.indent row.line)
  have hdeepest := state.deepest_le_enter (Layout.indent row.line) row.code
  rw [← h.blocks] at hleft
  rw [hopens] at hnext
  generalize (openBefore rows n).filter
    (fun a => ∀ v ∈ widthAt rows a, v < Layout.indent row.line) = left at hnext hleft
  have houter : left.length ≤ mostBlocks rows := by
    have := length_openBefore_le rows (n + 1)
    rw [hnext, List.length_append] at this
    omega
  -- The blocks that stay open raise the count of the row's braces.
  have hraised := h.counts.foldl houter row.code
  rw [← bracesBefore_succ hrow] at hraised
  rw [State.read, hcode, if_neg Bool.false_ne_true]
  simp only [State.enter_eq, hleft, List.length_map] at hdeepest ⊢
  refine ⟨?counts, ?blocks, fun i hi hi' => ?headers⟩
  case blocks =>
    rw [hnext]
    cases opensBlock row.code <;> simp [indentAt, hwidth]
  case headers =>
    rcases Nat.lt_succ_iff_lt_or_eq.mp hi with hi | rfl
    · exact Nat.le_trans (h.headers i hi hi') hdeepest
    · rw [length_headersTo hi', hnext]
      rw [hopens] at hi'
      simp only [hi', if_true, List.length_append, List.length_singleton]
      omega
  case counts =>
    cases ho : opensBlock row.code with
    | false => exact hraised
    | true =>
      obtain ⟨hbraces, hlow, hhigh⟩ := hraised
      have hwithin := length_openBefore_le rows (n + 1)
      have hle := bracesBefore_le rows (n + 1)
      rw [hnext, ho, List.length_append, if_pos rfl, List.length_singleton] at hwithin
      refine ⟨hbraces, ?_, ?_⟩
      · simp only [if_true]
        omega
      · simp only [if_true]
        omega

theorem Reads.read (h : Reads rows n state) (hrow : rows[n]? = some row) :
    Reads rows (n + 1) (state.read row) := by
  cases hcode : row.code.isEmpty with
  | true => exact h.read_empty hrow hcode
  | false => exact h.read_code hrow hcode

theorem reads_take (rows : List Row) (n : Nat) (hn : n ≤ rows.length) :
    Reads rows n ((rows.take n).foldl State.read .start) := by
  induction n with
  | zero => exact reads_start rows
  | succ n ih =>
    have hrow : rows[n]? = some rows[n] := List.getElem?_eq_getElem hn
    rw [List.take_add_one, hrow, List.foldl_append]
    exact (ih (Nat.le_of_succ_le hn)).read hrow

theorem deepest_between (rows : List Row) :
    let deepest := (rows.foldl State.read .start).deepest
    mostOpen (rows.flatMap Row.seen) ≤ deepest ∧ mostBlocks rows ≤ deepest ∧
      deepest ≤ mostOpen (rows.flatMap Row.seen) + mostBlocks rows := by
  have h := reads_take rows rows.length (Nat.le_refl _)
  have hcounts := h.counts
  rw [List.take_length] at h hcounts
  rw [bracesBefore, List.take_length] at hcounts
  obtain ⟨-, hlow, hhigh⟩ := hcounts
  rw [foldl_brace_eq] at hlow hhigh
  refine ⟨hlow, List.max_le_of_forall_le _ _ fun v hv => ?_, hhigh⟩
  obtain ⟨i, hi, rfl⟩ := List.mem_map.mp hv
  obtain ⟨hi, hopens⟩ := List.mem_filter.mp hi
  exact h.headers i (List.mem_range.mp hi) hopens

theorem mostBlocks_eq_zero (h : ∀ i, opensAt rows i = false) : mostBlocks rows = 0 := by
  have hnone : (List.range rows.length).filter (opensAt rows) = [] :=
    List.filter_eq_nil_iff.mpr fun i _ => by simp [h i]
  rw [mostBlocks, hnone]
  rfl

/-- The nesting depth lies between the larger of two readings and their sum: the largest excess of
opening braces in a stretch of the visible code, and the largest number of block headers among a
header and its ancestors in the tree of indentation. Where one of them finds nothing the depth is
the other. -/
theorem depth_between (code : Text) :
    let braces := mostOpen (visibleCode code)
    let blocks := mostBlocks (rowsOf code)
    max braces blocks ≤ depth code ∧ depth code ≤ braces + blocks ∧
      ((∀ i, opensAt (rowsOf code) i = false) → depth code = braces) ∧
      ('{' ∉ visibleCode code → depth code = blocks) := by
  intro braces blocks
  have h := deepest_between (rowsOf code)
  rw [← depth_eq] at h
  obtain ⟨hbraces, hblocks, hboth⟩ : braces ≤ depth code ∧ blocks ≤ depth code ∧
    depth code ≤ braces + blocks := h
  refine ⟨Nat.max_le.mpr ⟨hbraces, hblocks⟩, hboth, fun h => ?_, fun h => ?_⟩
  · have h0 : blocks = 0 := mostBlocks_eq_zero h
    exact Nat.le_antisymm (by omega) hbraces
  · have h0 : braces = 0 := mostOpen_eq_zero h
    exact Nat.le_antisymm (by omega) hblocks

/-- Braces inside one of two blocks, braces alone of which some have none to close, and blocks
alone. -/
theorem depth_between_mixed :
    let mixed : Text := "if a:\n  if b: # \x7b\n    c\n  d(\x7b\x7b\n"
    let braces : Text := "\x7d f(\x7b\n g:\x7b\x7d \x7b'\x7b'"
    let blocks : Text := "def f():\n  try:\n\n    for a in b:\n  except:\n    c"
    mostOpen (visibleCode mixed) = 2 ∧ mostBlocks (rowsOf mixed) = 2 ∧ depth mixed = 3 ∧
    max 2 2 ≤ depth mixed ∧ depth mixed ≤ 2 + 2 ∧
    (∀ i, opensAt (rowsOf braces) i = false) ∧ depth braces = 2 ∧
    '{' ∉ visibleCode blocks ∧ depth blocks = 3 := by
  intro mixed braces blocks
  have hbraces : mostOpen (visibleCode mixed) = 2 := by decide +kernel
  have hblocks : mostBlocks (rowsOf mixed) = 2 := by decide +kernel
  obtain ⟨hlow, hhigh, -, -⟩ := depth_between mixed
  simp only [hbraces, hblocks] at hlow hhigh
  have hflat : ∀ i, opensAt (rowsOf braces) i = false := by
    have hrows : (rowsOf braces).all (!·.opens) = true := by decide +kernel
    intro i
    cases h : (rowsOf braces)[i]? with
    | none => simp [opensAt, h]
    | some row => simpa [opensAt, h] using List.all_eq_true.mp hrows row (List.mem_of_getElem? h)
  have hopen : '{' ∉ visibleCode blocks := by decide +kernel
  have hmost : mostOpen (visibleCode braces) = 2 := by decide +kernel
  have hheaders : mostBlocks (rowsOf blocks) = 3 := by decide +kernel
  exact ⟨hbraces, hblocks, by decide +kernel, hlow, hhigh, hflat,
    ((depth_between braces).2.2.1 hflat).trans hmost, hopen,
    ((depth_between blocks).2.2.2 hopen).trans hheaders⟩

end Critique.Nesting
