import Mathlib.Data.List.TakeWhile
import Critique.Proofs.Fence
import Critique.Proofs.Language
import Critique.Proofs.Submission
import Critique.Proofs.Text.Casing
import Critique.Prompt

/-!
# The block of code in a prompt

`reads_back_iff`: the first block of a prompt holds the code that was submitted, whatever the code
is, exactly where the name of the language stands on one line and does not start with a backtick.
The fence is made to fit the code alone. A line feed in the name moves the code away from the line
that opens its block, and a backtick at the front makes that line longer than the one that closes.
-/

namespace Critique.Prompt

open Fence (around backtick closed feed_not_mem_around)
open Critique.Language (canonical_of_blank)
open Markdown (block? body? closes lead opens)

variable {kind : Kind} {language code : Text}

-- ---------------------------------------------------------------------------
-- The lines of a prompt
-- ---------------------------------------------------------------------------

/-- The lines up to the end of the block, and whatever comes after it. -/
theorem exists_pieces_ofCode (kind : Kind) (language : Text) (assessment : Assessment)
    {ps : List Text} (hps : closed code = Text.unlines ps) (hfree : ∀ p ∈ ps, '\n' ∉ p) :
    ∃ rest, Text.pieces (ofCode kind language code assessment) =
      Text.pieces (intro kind language) ++
        [] :: (Text.pieces (around code ++ language) ++ (ps ++ around code :: rest)) := by
  obtain ⟨rest, he⟩ : ∃ rest, ofCode kind language code assessment =
      intro kind language ++ '\n' :: '\n' :: (around code ++ language ++
        '\n' :: (Text.unlines ps ++ (around code ++ '\n' :: rest))) := by
    simp only [ofCode, Text.paragraph, Fence.block, hps, Text.unlines, Text.line, List.cons_append,
      List.nil_append, List.flatMap_cons, List.append_assoc]
    exact ⟨_, rfl⟩
  refine ⟨Text.pieces rest, ?_⟩
  rw [he, Text.pieces_append, Text.pieces_feed, Text.pieces_append,
    Text.pieces_unlines_append _ hfree, Text.pieces_append,
    Text.pieces_of_not_mem (feed_not_mem_around code)]
  rfl

theorem feed_not_mem_intro (kind : Kind) (h : '\n' ∉ language) : '\n' ∉ intro kind language := by
  have hu : '\n' ∉ Text.upper language := fun hf => h (Text.feed_mem_of_mem_upper hf)
  unfold intro
  cases kind with
  | bugs | review =>
    exact List.not_mem_append (List.not_mem_append (List.not_mem_append (by simp) hu)
      (by simp)) (by simp)
  | optimize => exact List.not_mem_append (List.not_mem_append (by simp) hu) (by simp)

theorem opens_intro (kind : Kind) (language : Text) : opens (intro kind language) = false := by
  cases kind <;> rfl

-- ---------------------------------------------------------------------------
-- Names on one line
-- ---------------------------------------------------------------------------

theorem opens_around_append (code t : Text) : opens (around code ++ t) = true := by
  simp only [opens, Markdown.lead_around_append, Fence.length_around, decide_eq_true_eq]
  omega

theorem block?_ofCode (kind : Kind) (code : Text) (assessment : Assessment) {ps : List Text}
    (hl : '\n' ∉ language) (hps : closed code = Text.unlines ps) (hfree : ∀ p ∈ ps, '\n' ∉ p) :
    ∃ rest, block? (Text.pieces (ofCode kind language code assessment)) =
      body? ((around code).length + lead language) (ps ++ around code :: rest) := by
  obtain ⟨rest, hp⟩ := exists_pieces_ofCode kind language assessment hps hfree
  have hopening : '\n' ∉ around code ++ language :=
    List.not_mem_append (feed_not_mem_around code) hl
  have hbefore : ∀ line ∈ [intro kind language, []], opens line = false :=
    List.forall_mem_cons.mpr ⟨opens_intro kind language, List.forall_mem_singleton.mpr rfl⟩
  refine ⟨rest, ?_⟩
  rw [hp, Text.pieces_of_not_mem (feed_not_mem_intro kind hl), Text.pieces_of_not_mem hopening,
    ← Markdown.lead_around_append]
  exact (Markdown.block?_append _ hbefore).trans (if_pos (opens_around_append code language))

/-- The block is read back as the code, whatever the code is. -/
theorem read_ofCode (kind : Kind) (code : Text) (assessment : Assessment)
    (hl : '\n' ∉ language) (ht : language.head? ≠ some backtick) :
    Markdown.read (ofCode kind language code assessment) = some (closed code) := by
  obtain ⟨ps, hps, hmem⟩ := Fence.exists_lines_closed code
  obtain ⟨rest, hb⟩ := block?_ofCode kind code assessment hl hps
    fun p hp => Text.not_mem_of_mem_pieces (hmem p hp)
  have hcloses : closes (around code).length (around code) = true :=
    Markdown.closes_iff.mpr ⟨by simp [around], Nat.le_refl _⟩
  rw [Markdown.lead_eq_zero ht, Nat.add_zero,
    Markdown.body?_append _ (fun p hp => Markdown.closes_around (hmem p hp)),
    Markdown.body?_of_closes rest hcloses] at hb
  simp [Markdown.read, hb, hps]

-- ---------------------------------------------------------------------------
-- Names that break the block
-- ---------------------------------------------------------------------------

/-- Behind a backtick the block goes on after the code, or never ends. -/
theorem read_ofCode_of_backtick (kind : Kind) (code : Text) (assessment : Assessment)
    (hl : '\n' ∉ language) (ht : language.head? = some backtick) :
    Markdown.read (ofCode kind language code assessment) ≠ some (closed code) := by
  obtain ⟨ps, hps, hmem⟩ := Fence.exists_lines_closed code
  obtain ⟨rest, hb⟩ := block?_ofCode kind code assessment hl hps
    fun p hp => Text.not_mem_of_mem_pieces (hmem p hp)
  obtain ⟨tail, rfl⟩ : ∃ tail, language = backtick :: tail := List.head?_eq_some_iff.mp ht
  have hlead : 0 < lead (backtick :: tail) := by simp [lead]
  -- The fence that ends the code is shorter than the run that opens the block.
  have hinside : ∀ line ∈ ps ++ [around code],
      closes ((around code).length + lead (backtick :: tail)) line = false := by
    intro line hm
    rcases List.mem_append.mp hm with hm | hm
    · exact Markdown.closes_of_le (Nat.le_add_right _ _) (Markdown.closes_around (hmem line hm))
    · rw [List.mem_singleton.mp hm, Bool.eq_false_iff]
      intro hc
      have hle := (Markdown.closes_iff.mp hc).2
      omega
  rw [List.append_cons, Markdown.body?_append rest hinside] at hb
  intro hr
  simp only [Markdown.read, hb, Option.map_map, Option.map_eq_some_iff] at hr
  obtain ⟨lines, -, hr⟩ := hr
  have hlength := congrArg List.length hr
  simp [hps, Text.unlines, Text.line] at hlength

/-- Behind a line feed the first line of the block is the same for all codes. -/
theorem read_ofCode_of_feed (kind : Kind) (hl : '\n' ∈ language) :
    ∃ first : Option Char, ∀ c, c ≠ '\n' → c ≠ backtick → ∀ assessment,
      Markdown.read (ofCode kind language [c] assessment) = some (closed [c]) →
        first = some c := by
  -- Up to its first line feed the name ends the line of the fence, and the rest of it follows.
  obtain ⟨start, others, rfl, hstart⟩ := List.eq_append_cons_of_mem hl
  obtain ⟨next, more, hmore⟩ := List.exists_cons_of_ne_nil (Text.pieces_ne_nil others)
  obtain ⟨opening, line, lines, hb⟩ := Markdown.block?_of_opens
    (Text.pieces (intro kind (start ++ '\n' :: others)) ++ [[]]) next more
    (opens_around_append [] start)
  refine ⟨(Text.line line).head?, fun c hc ht assessment hr => ?_⟩
  have haround : around [c] = around [] := by
    simp [around, Fence.longestRun, Fence.count, ht, Fence.shortest]
  have hclosed : closed [c] = Text.unlines [[c]] := by
    simp [closed, hc, Text.unlines]
  obtain ⟨rest, hp⟩ := exists_pieces_ofCode kind (start ++ '\n' :: others) assessment hclosed
    (by simp [Ne.symm hc])
  have hopening : Text.pieces (around [] ++ (start ++ '\n' :: others)) =
      (around [] ++ start) :: next :: more := by
    rw [← List.append_assoc, Text.pieces_append, hmore, Text.pieces_of_not_mem
      (List.not_mem_append (feed_not_mem_around []) hstart)]
    rfl
  have hblock : block? (Text.pieces (ofCode kind (start ++ '\n' :: others) [c] assessment)) =
      body? opening (line :: (lines ++ [c] :: around [] :: rest)) := by
    rw [hp, haround, hopening]
    simpa using hb ([c] :: around [] :: rest)
  rw [Markdown.read, hblock] at hr
  rw [← Markdown.head?_of_body? hr (by simp [hclosed, Text.unlines, Text.line]), hclosed]
  rfl

-- ---------------------------------------------------------------------------
-- Names of languages
-- ---------------------------------------------------------------------------

/-- The names of languages for which the code of every request is read back. -/
theorem reads_back_iff (catalog : Catalog) (kind : Kind) (raw : Text) :
    (∀ max request submission, request.language = some raw →
      Submission.ofRequest max request = .ok submission →
      Markdown.read (ofCode kind submission.language submission.code
        (catalog.assess kind submission.code submission.language)) =
          some (closed submission.code)) ↔
      '\n' ∉ Language.canonical raw ∧ (Language.canonical raw).head? ≠ some backtick := by
  constructor
  · intro h
    cases hb : Text.blank raw with
    | true => simp [canonical_of_blank hb]
    | false =>
      have hcode (c : Char) (hc : Text.blank [c] = false) : Markdown.read
          (ofCode kind (Language.canonical raw) [c]
            (catalog.assess kind [c] (Language.canonical raw))) = some (closed [c]) :=
        h 1 ⟨some [c], some raw⟩ ⟨[c], Language.canonical raw⟩ rfl
          (Submission.ofRequest_of_filled ⟨rfl, rfl, hc, hb⟩)
      have hfeed : '\n' ∉ Language.canonical raw := by
        -- Two codes that differ cannot both be the first line of the block.
        intro hl
        obtain ⟨first, hfirst⟩ := read_ofCode_of_feed kind hl
        have hx := hfirst 'x' (by decide) (by decide) _ (hcode 'x' (by decide))
        have hz := hfirst 'z' (by decide) (by decide) _ (hcode 'z' (by decide))
        exact absurd (hx.symm.trans hz) (by decide)
      exact ⟨hfeed, fun ht => read_ofCode_of_backtick kind _ _ hfeed ht (hcode 'x' (by decide))⟩
  · rintro ⟨hl, ht⟩ max request submission hr h
    obtain ⟨raw', hs, hlanguage⟩ := Submission.filled_of_ofRequest h
    cases hr.symm.trans hs.hasLanguage
    rw [hlanguage]
    exact read_ofCode kind _ _ hl ht

/-- The name in backticks, as it is written in a text. -/
theorem quoted_name_not_read :
    ∃ submission, Submission.ofRequest 10000 ⟨some "x", some "\x60js\x60"⟩ = .ok submission ∧
      Markdown.read (ofCode .review submission.language submission.code
        (Catalog.all.assess .review submission.code submission.language)) ≠
          some (closed submission.code) := by
  refine ⟨⟨"x", "\x60js\x60"⟩, by decide, ?_⟩
  exact read_ofCode_of_backtick .review "x" _ (by decide) (by decide)

end Critique.Prompt
