import Mathlib.Data.List.Induction
import Critique.Fence
import Critique.Proofs.Text.Lines

/-!
# Blocks of code read back

`longestRun` is the length of the longest run of backticks that stands in a text, so no line of code
is a run as long as the fence around it. `around_shortest_block_inj`: no shorter fence will do, and
a block says what its code is. `Markdown.read` takes the first block of code out of a text, line by
line: it ends at a line of backticks that are not fewer than those it starts with.
-/

namespace Critique

namespace Fence

-- ---------------------------------------------------------------------------
-- Runs of backticks
-- ---------------------------------------------------------------------------

/-- The counters after a text: the run at its end and the longest run in it. -/
structure Tracks (t : Text) (counters : Nat × Nat) : Prop where
  run : ∀ n, List.replicate n backtick <:+ t ↔ n ≤ counters.1
  longest : ∀ n, List.replicate n backtick <:+: t ↔ n ≤ counters.2

theorem tracks_nil : Tracks [] (0, 0) := by
  constructor <;> intro n <;> simp [List.replicate_eq_nil_iff]

/-- A run at the end is one longer after a backtick, and none after anything else. -/
theorem replicate_suffix_concat (t : Text) (c : Char) (n : Nat) :
    List.replicate n backtick <:+ t ++ [c] ↔
      n = 0 ∨ c = backtick ∧ List.replicate (n - 1) backtick <:+ t := by
  cases n with
  | zero => simp
  | succ n =>
    rw [List.replicate_succ', List.suffix_concat_iff]
    constructor
    · rintro (h | ⟨front, h, hs⟩)
      · simp at h
      · obtain ⟨rfl, hc⟩ := List.append_inj' h rfl
        exact .inr ⟨(List.singleton_inj.mp hc).symm, hs⟩
    · rintro (h | ⟨rfl, hs⟩)
      · omega
      · exact .inr ⟨_, rfl, hs⟩

theorem Tracks.concat {t : Text} {counters : Nat × Nat} (h : Tracks t counters) (c : Char) :
    Tracks (t ++ [c]) (count counters c) := by
  have hrun (n) : List.replicate n backtick <:+ t ++ [c] ↔ n ≤ (count counters c).1 := by
    rw [replicate_suffix_concat, h.run]
    by_cases hc : c = backtick
    · simp only [count, hc, if_true, true_and]
      omega
    · simp [count, hc]
  refine ⟨hrun, fun n => ?_⟩
  rw [List.infix_concat_iff, hrun, h.longest]
  by_cases hc : c = backtick
  · simp only [count, hc, if_true]
    omega
  · simp only [count, hc, if_false]
    omega

theorem tracks_foldl (t : Text) : Tracks t (t.foldl count (0, 0)) := by
  -- On the end of the text, since that is where a run grows.
  induction t using List.reverseRecOn with
  | nil => exact tracks_nil
  | append_singleton t c ih =>
    rw [List.foldl_append]
    exact ih.concat c

theorem replicate_infix_iff (n : Nat) (t : Text) :
    List.replicate n backtick <:+: t ↔ n ≤ longestRun t :=
  (tracks_foldl t).longest n

theorem length_around (code : Text) : (around code).length = max (longestRun code + 1) 3 := by
  simp [around, shortest]

-- ---------------------------------------------------------------------------
-- Lines of closed code
-- ---------------------------------------------------------------------------

/-- Closed code is whole lines, and they are pieces of the code. -/
theorem exists_lines_closed (code : Text) :
    ∃ ps, closed code = Text.unlines ps ∧ ∀ p ∈ ps, p ∈ Text.pieces code := by
  obtain ⟨ps, last, hp, ht⟩ := Text.exists_pieces code
  by_cases hc : code.getLast? = some '\n'
  · refine ⟨ps, ?_, fun p h => hp ▸ List.mem_append_left _ h⟩
    have hlast : last = [] := by
      cases hl : last.getLast? with
      | none => exact List.getLast?_eq_none_iff.mp hl
      | some c =>
        have hmem : last ∈ Text.pieces code := by simp [hp]
        have hcl : c = '\n' := by
          rw [ht] at hc
          simpa [hl] using hc
        exact absurd (hcl ▸ List.mem_of_getLast? hl) (Text.not_mem_of_mem_pieces hmem)
    rw [closed, if_pos hc, ht, hlast, List.append_nil]
  · refine ⟨ps ++ [last], ?_, fun p h => hp ▸ h⟩
    rw [closed, if_neg hc, ht]
    simp [Text.unlines, Text.line]

-- ---------------------------------------------------------------------------
-- Different code in blocks
-- ---------------------------------------------------------------------------

theorem around_eq_replicate (text : Text) :
    around text = List.replicate (around text).length backtick := by
  simp [around]

theorem longestRun_closed (code : Text) : longestRun (closed code) = longestRun code := by
  unfold closed
  split
  · rfl
  -- A line feed goes into no run.
  · simp [longestRun, Text.line, count, backtick]

theorem around_closed (code : Text) : around (closed code) = around code := by
  rw [around, longestRun_closed, around]

theorem feed_not_mem_around (code : Text) : '\n' ∉ around code := by
  simp [around, backtick]

theorem closed_ends (code : Text) : ∃ front, closed code = Text.line front := by
  unfold closed
  split
  · next h =>
    obtain ⟨front, rfl⟩ := List.getLast?_eq_some_iff.mp h
    exact ⟨front, rfl⟩
  · exact ⟨code, rfl⟩

theorem getLast?_pieces_block (language code : Text) :
    (Text.pieces (block language code)).getLast? = some (around code) := by
  obtain ⟨front, hf⟩ := closed_ends code
  have hblock : block language code =
      around code ++ Text.line language ++ front ++ '\n' :: around code := by
    simp [block, hf, Text.line]
  rw [hblock, Text.pieces_append, Text.pieces_of_not_mem (feed_not_mem_around code),
    List.getLast?_concat]

theorem block_inj {language code other : Text} :
    block language code = block language other ↔ closed code = closed other := by
  constructor
  · intro h
    -- The language may hold backticks and line feeds, but the fence is also the last line.
    have haround : around code = around other := by
      have hlast := congrArg (fun t => (Text.pieces t).getLast?) h
      simpa only [getLast?_pieces_block, Option.some.injEq] using hlast
    simpa [block, haround] using h
  · intro h
    rw [block, ← around_closed, h, around_closed, block]

/-- The fence around a text is the shortest run of three backticks or more that the text does not
hold. Blocks in one language differ if their codes do, but for a line feed at the end. -/
theorem around_shortest_block_inj :
    (∀ text, around text = List.replicate (around text).length backtick ∧
      ∀ n, 3 ≤ n ∧ ¬ List.replicate n backtick <:+: text ↔ (around text).length ≤ n) ∧
    ∀ language code other : Text,
      let ended (t : Text) := if t.getLast? = some '\n' then t else t ++ ['\n']
      block language code = block language other ↔ ended code = ended other := by
  refine ⟨fun text => ⟨around_eq_replicate text, fun n => ?_⟩, fun language code other => block_inj⟩
  rw [replicate_infix_iff, length_around]
  omega

end Fence

-- ---------------------------------------------------------------------------
-- Reading
-- ---------------------------------------------------------------------------

namespace Markdown

open Fence (backtick)

/-- How many backticks a line starts with. -/
def lead (line : Text) : Nat := (line.takeWhile (· == backtick)).length

def opens (line : Text) : Bool := 3 ≤ lead line

/-- A line of backticks alone, as many as `opening` or more. -/
def closes (opening : Nat) (line : Text) : Bool :=
  line.all (· == backtick) && opening ≤ line.length

/-- The lines of a block, up to the one that closes it. -/
def body? (opening : Nat) : List Text → Option (List Text)
  | [] => none
  | line :: rest =>
    if closes opening line then some [] else (body? opening rest).map (line :: ·)

/-- The lines of the first block. -/
def block? : List Text → Option (List Text)
  | [] => none
  | line :: rest => if opens line then body? (lead line) rest else block? rest

/-- The code of the first block, each line with a line feed after it. -/
def read (t : Text) : Option Text := (block? (Text.pieces t)).map Text.unlines

theorem lead_replicate_append (n : Nat) (t : Text) :
    lead (List.replicate n backtick ++ t) = n + lead t := by
  rw [lead, List.takeWhile_append_of_pos (by simp)]
  simp [lead]

theorem lead_around_append (code t : Text) :
    lead (Fence.around code ++ t) = (Fence.around code).length + lead t := by
  simp [Fence.around, lead_replicate_append]

theorem lead_eq_zero {t : Text} (h : t.head? ≠ some backtick) : lead t = 0 := by
  cases t with
  | nil => rfl
  | cons c t =>
    have hc : c ≠ backtick := by simpa using h
    simp [lead, hc]

theorem closes_iff {opening : Nat} {line : Text} :
    closes opening line = true ↔
      line = List.replicate line.length backtick ∧ opening ≤ line.length := by
  simp [closes, List.eq_replicate_iff]

theorem block?_append {front : List Text} (rest : List Text)
    (h : ∀ line ∈ front, opens line = false) : block? (front ++ rest) = block? rest := by
  induction front with
  | nil => rfl
  | cons line front ih =>
    obtain ⟨hl, hf⟩ := List.forall_mem_cons.mp h
    simp [block?, hl, ih hf]

theorem body?_of_closes {opening : Nat} {line : Text} (rest : List Text)
    (h : closes opening line = true) : body? opening (line :: rest) = some [] := by
  simp [body?, h]

theorem body?_append {opening : Nat} {front : List Text} (rest : List Text)
    (h : ∀ line ∈ front, closes opening line = false) :
    body? opening (front ++ rest) = (body? opening rest).map (front ++ ·) := by
  induction front with
  | nil => simp
  | cons line front ih =>
    obtain ⟨hl, hf⟩ := List.forall_mem_cons.mp h
    simp only [List.cons_append, body?, hl, ih hf, Bool.false_eq_true, if_false, Option.map_map]
    rfl

/-- A block that is opened in front of a line holds the first line after the one that opens it. -/
theorem block?_of_opens (front : List Text) {line : Text} (next : Text) (more : List Text)
    (h : opens line = true) :
    ∃ opening first others, ∀ rest,
      block? (front ++ line :: next :: more ++ rest) = body? opening (first :: others ++ rest) := by
  induction front with
  | nil => exact ⟨lead line, next, more, fun rest => by simp [block?, h]⟩
  | cons earlier front ih =>
    by_cases he : opens earlier = true
    · cases front with
      | nil => exact ⟨lead earlier, line, next :: more, fun rest => by simp [block?, he]⟩
      | cons second front =>
        exact ⟨lead earlier, second, front ++ line :: next :: more, fun rest => by
          simp [block?, he]⟩
    · obtain ⟨opening, first, others, hi⟩ := ih
      refine ⟨opening, first, others, fun rest => ?_⟩
      rw [← hi rest, List.cons_append, List.cons_append, block?, if_neg he]

/-- A text that is read starts with the first line of its block. -/
theorem head?_of_body? {opening : Nat} {line t : Text} {rest : List Text}
    (h : (body? opening (line :: rest)).map Text.unlines = some t) (hne : t ≠ []) :
    t.head? = (Text.line line).head? := by
  by_cases hc : closes opening line = true
  · rw [body?_of_closes rest hc] at h
    exact absurd (Option.some.inj h).symm hne
  · simp only [body?, hc, Bool.false_eq_true, if_false, Option.map_map, Option.map_eq_some_iff,
      Function.comp_apply] at h
    obtain ⟨lines, -, rfl⟩ := h
    cases line <;> rfl

theorem closes_of_le {m n : Nat} {line : Text} (hle : m ≤ n) (h : closes m line = false) :
    closes n line = false := by
  rw [Bool.eq_false_iff] at h ⊢
  intro hc
  obtain ⟨hr, hn⟩ := closes_iff.mp hc
  exact h (closes_iff.mpr ⟨hr, Nat.le_trans hle hn⟩)

/-- No line of code closes the block around it. -/
theorem closes_around {code line : Text} (h : line ∈ Text.pieces code) :
    closes (Fence.around code).length line = false := by
  rw [Bool.eq_false_iff]
  intro hc
  obtain ⟨hr, hle⟩ := closes_iff.mp hc
  have hrun := (Fence.replicate_infix_iff line.length code).mp
    (hr ▸ Text.infix_of_mem_pieces h)
  rw [Fence.length_around] at hle
  omega

end Markdown

end Critique
