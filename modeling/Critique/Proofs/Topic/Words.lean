import Critique.Proofs.Text.Lines
import Critique.Proofs.Text.Lower
import Critique.Topic.Basic

/-!
# Words of a topic

The words of a topic are those of its small letters. Small letters come from one character each, but
for a sigma at the end of a word, whose form depends on what stands around the word. Where the two
forms are taken for one letter (`plain`), the words of a topic come from the words that are spelled
in it, one by one (`plain_words`).
-/

namespace Critique.Topic

open Text (isAlphanumeric lower lowerAfter lowerChar)

variable {c : Char} {w a b t : Text}

-- ---------------------------------------------------------------------------
-- Words as they are spelled
-- ---------------------------------------------------------------------------

/-- The runs of letters and digits of a text. -/
def spelled (t : Text) : List Text := (wordPieces t).filter (!·.isEmpty)

theorem words_eq (topic : Text) : words topic = spelled (lower topic) := rfl

theorem wordPieces_cons_letter (h : isAlphanumeric c = true) (t : Text) :
    wordPieces (c :: t) = Text.consPiece c (wordPieces t) := by
  simp [wordPieces, h]

theorem wordPieces_cons_other (h : isAlphanumeric c = false) (t : Text) :
    wordPieces (c :: t) = [] :: wordPieces t := by
  simp [wordPieces, h]

theorem wordPieces_of_word (h : ∀ c ∈ w, isAlphanumeric c = true) : wordPieces w = [w] := by
  induction w with
  | nil => rfl
  | cons c w ih =>
    obtain ⟨hc, hw⟩ := List.forall_mem_cons.mp h
    rw [wordPieces_cons_letter hc, ih hw]
    rfl

theorem wordPieces_ne_nil (t : Text) : wordPieces t ≠ [] := by
  cases t with
  | nil => exact List.cons_ne_nil _ _
  | cons c t =>
    cases h : isAlphanumeric c with
    | true => exact wordPieces_cons_letter h t ▸ Text.consPiece_ne_nil c _
    | false => exact wordPieces_cons_other h t ▸ List.cons_ne_nil _ _

theorem wordPieces_append (h : isAlphanumeric c = false) (a b : Text) :
    wordPieces (a ++ c :: b) = wordPieces a ++ wordPieces b := by
  induction a with
  | nil => exact wordPieces_cons_other h b
  | cons d a ih =>
    cases hd : isAlphanumeric d with
    | true =>
      rw [List.cons_append, wordPieces_cons_letter hd, wordPieces_cons_letter hd, ih,
        Text.consPiece_append _ (wordPieces_ne_nil a)]
    | false =>
      rw [List.cons_append, wordPieces_cons_other hd, wordPieces_cons_other hd, ih,
        List.cons_append]

theorem spelled_append (h : isAlphanumeric c = false) (a b : Text) :
    spelled (a ++ c :: b) = spelled a ++ spelled b := by
  rw [spelled, wordPieces_append h, List.filter_append, spelled, spelled]

/-- A text is a word, or a word that something else divides from the rest. -/
theorem induction_on_words {motive : Text → Prop}
    (word : ∀ w, (∀ c ∈ w, isAlphanumeric c = true) → motive w)
    (divided : ∀ w c rest, (∀ c ∈ w, isAlphanumeric c = true) → isAlphanumeric c = false →
      motive rest → motive (w ++ c :: rest)) (t : Text) : motive t := by
  -- The letters that stand before the rest grow along it.
  suffices ∀ w, (∀ c ∈ w, isAlphanumeric c = true) → motive (w ++ t) from
    this [] (List.forall_mem_nil _)
  induction t with
  | nil => simpa using word
  | cons c t ih =>
    intro w hw
    cases hc : isAlphanumeric c with
    | true =>
      have hgrown : ∀ d ∈ w ++ [c], isAlphanumeric d = true := by simpa [or_imp, forall_and, hc]
      simpa using ih (w ++ [c]) hgrown
    | false => exact divided w c t hw hc (ih [] (List.forall_mem_nil _))

theorem flatMap_spelled_of_word (h : ∀ c ∈ w, isAlphanumeric c = true) {f : Text → List Text}
    (hf : f [] = []) : (spelled w).flatMap f = f w := by
  cases w with
  | nil => exact hf.symm
  | cons c w => simp [spelled, wordPieces_of_word h]

/-- What is put in the place of letters and digits alone does not bring words together. -/
theorem spelled_flatMap {f : Char → Text} (hf : ∀ c, isAlphanumeric c = false → f c = [c])
    (t : Text) : spelled (t.flatMap f) = (spelled t).flatMap fun w => spelled (w.flatMap f) := by
  induction t using induction_on_words with
  | word w hw => rw [flatMap_spelled_of_word hw rfl]
  | divided w c rest hw hc ih =>
    have hword : (spelled w).flatMap (fun w => spelled (w.flatMap f)) = spelled (w.flatMap f) :=
      flatMap_spelled_of_word hw rfl
    rw [List.flatMap_append, List.flatMap_cons, hf c hc, List.singleton_append, spelled_append hc,
      spelled_append hc, List.flatMap_append, hword, ih]

theorem wordPieces_map {f : Char → Char} (hf : ∀ c, isAlphanumeric (f c) = isAlphanumeric c)
    (t : Text) : wordPieces (t.map f) = (wordPieces t).map (List.map f) := by
  induction t with
  | nil => rfl
  | cons c t ih =>
    cases hc : isAlphanumeric c with
    | true =>
      rw [List.map_cons, wordPieces_cons_letter ((hf c).trans hc), ih, wordPieces_cons_letter hc]
      cases wordPieces t <;> rfl
    | false =>
      rw [List.map_cons, wordPieces_cons_other ((hf c).trans hc), ih, wordPieces_cons_other hc]
      rfl

theorem spelled_map {f : Char → Char} (hf : ∀ c, isAlphanumeric (f c) = isAlphanumeric c)
    (t : Text) : spelled (t.map f) = (spelled t).map (List.map f) := by
  rw [spelled, wordPieces_map hf, List.filter_map, spelled]
  congr 2
  funext w
  simp

-- ---------------------------------------------------------------------------
-- Words in small letters
-- ---------------------------------------------------------------------------

/-- The two small forms of sigma as one letter. -/
def plain (c : Char) : Char := if c = 'ς' then 'σ' else c

/-- The small form of a character wherever it stands. -/
def plainSmall (c : Char) : Text := (lowerChar c).map plain

theorem isAlphanumeric_sigma : isAlphanumeric 'σ' = true ∧ isAlphanumeric 'ς' = true := by
  decide +kernel

theorem isAlphanumeric_plain (c : Char) : isAlphanumeric (plain c) = isAlphanumeric c := by
  unfold plain
  split
  case isTrue h =>
    rw [h, isAlphanumeric_sigma.1, isAlphanumeric_sigma.2]
  case isFalse => rfl

theorem map_plain_lowerAfter (passed t : Text) :
    (lowerAfter passed t).map plain = t.flatMap plainSmall := by
  induction t generalizing passed with
  | nil => rfl
  | cons c t ih =>
    rw [lowerAfter, List.map_append, ih, List.flatMap_cons]
    congr 1
    split
    case isTrue h =>
      subst h
      split <;> decide
    case isFalse => rfl

theorem plain_of_other (h : isAlphanumeric c = false) : plain c = c := by
  refine if_neg ?_
  rintro rfl
  exact absurd isAlphanumeric_sigma.2 (Bool.eq_false_iff.mp h)

theorem plainSmall_of_other (h : isAlphanumeric c = false) : plainSmall c = [c] := by
  rw [plainSmall, Text.lowerChar_of_other h, List.map_singleton, plain_of_other h]

/-- Taking the forms of sigma for one, the words of a topic come from those that are spelled in
it. -/
theorem plain_words (t : Text) : (words t).map (List.map plain) =
    (spelled t).flatMap fun w => (words w).map (List.map plain) := by
  have hplain (t : Text) : (words t).map (List.map plain) = spelled (t.flatMap plainSmall) := by
    rw [words_eq, ← spelled_map isAlphanumeric_plain, lower, map_plain_lowerAfter]
  simp only [hplain]
  exact spelled_flatMap (fun c hc => plainSmall_of_other hc) t

end Critique.Topic
