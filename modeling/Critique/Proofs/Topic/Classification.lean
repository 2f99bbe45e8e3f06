import Critique.Proofs.Topic.Words
import Critique.Topic.Lessons

/-!
# Classification of topics

Categories are ranked as they are tried. `classifies_by_words`: the rank of a topic is the least of
the ranks of its words, so a topic is told by the set of its words alone.
-/

namespace Critique.Topic

variable {w t u : Text} {category : Category}

-- ---------------------------------------------------------------------------
-- Keywords
-- ---------------------------------------------------------------------------

theorem dropLast?_eq_some_iff {c : Char} {k : Text} : dropLast? c w = some k ↔ w = k ++ [c] := by
  unfold dropLast?
  constructor
  · intro h
    split at h
    case isTrue hlast =>
      rw [← Option.some.inj h]
      exact (List.dropLast_append_getLast? c hlast).symm
    case isFalse => cases h
  · rintro rfl
    simp

theorem fits_word_iff {k : Text} :
    (Keyword.word k).fits w = true ↔ w = k ∨ w = k ++ "s" ∨ w = k ++ "es" := by
  have hplural : (dropLast? 's' w).bind (dropLast? 'e') = some k ↔ w = k ++ "es" := by
    simp only [Option.bind_eq_some_iff, dropLast?_eq_some_iff]
    constructor
    · rintro ⟨_, rfl, rfl⟩
      exact List.append_assoc k ['e'] ['s']
    · intro h
      exact ⟨k ++ ['e'], h.trans (List.append_assoc k ['e'] ['s']).symm, rfl⟩
  simp only [Keyword.fits, Bool.or_eq_true, beq_iff_eq, dropLast?_eq_some_iff, hplural, or_assoc]
  rfl

theorem fits_stem_iff {start : Text} : (Keyword.stem start).fits w = true ↔ start <+: w :=
  List.isPrefixOf_iff_prefix

/-- The letters of a keyword. -/
def Keyword.letters : Keyword → Text
  | .word k => k
  | .stem start => start

/-- No letter of a text is a sigma, which alone is taken for another letter. -/
def NoSigma (k : Text) : Prop := 'σ' ∉ k ∧ 'ς' ∉ k

theorem plain_eq_iff {c d : Char} (hsigma : 'σ' ≠ c) (hfinal : 'ς' ≠ c) :
    plain d = c ↔ d = c := by
  unfold plain
  split
  case isTrue hd =>
    subst hd
    exact iff_of_false hsigma hfinal
  case isFalse => rfl

theorem NoSigma.map_plain_eq_iff {k : Text} (h : NoSigma k) : w.map plain = k ↔ w = k := by
  induction w generalizing k with
  | nil => rfl
  | cons d w ih =>
    cases k with
    | nil => simp
    | cons c k =>
      obtain ⟨hsigma, hk⟩ := List.ne_and_not_mem_of_not_mem_cons h.1
      obtain ⟨hfinal, hk'⟩ := List.ne_and_not_mem_of_not_mem_cons h.2
      rw [List.map_cons, List.cons.injEq, List.cons.injEq, plain_eq_iff hsigma hfinal, ih ⟨hk, hk'⟩]

theorem NoSigma.append {k more : Text} (h : NoSigma k) (hmore : NoSigma more) :
    NoSigma (k ++ more) :=
  ⟨List.not_mem_append h.1 hmore.1, List.not_mem_append h.2 hmore.2⟩

theorem fits_map_plain {keyword : Keyword} (h : NoSigma keyword.letters) (w : Text) :
    keyword.fits (w.map plain) = keyword.fits w := by
  rw [Bool.eq_iff_iff]
  cases keyword with
  | word k =>
    have hk : NoSigma k := h
    have hs : NoSigma (k ++ "s") := hk.append (by unfold NoSigma; decide)
    have hes : NoSigma (k ++ "es") := hk.append (by unfold NoSigma; decide)
    rw [fits_word_iff, fits_word_iff, hk.map_plain_eq_iff, hs.map_plain_eq_iff,
      hes.map_plain_eq_iff]
  | stem start =>
    have hstart : NoSigma start := h
    rw [fits_stem_iff, fits_stem_iff, List.prefix_iff_eq_take, List.prefix_iff_eq_take,
      ← List.map_take, eq_comm, hstart.map_plain_eq_iff, eq_comm]

theorem keywords_noSigma : ∀ category ∈ categories, ∀ keyword ∈ category.keywords,
    NoSigma keyword.letters := by
  unfold NoSigma
  decide +kernel

-- ---------------------------------------------------------------------------
-- Categories and words
-- ---------------------------------------------------------------------------

theorem covers_iff {ws : List Text} : category.covers ws = true ↔
    ∃ w ∈ ws, ∃ keyword ∈ category.keywords, keyword.fits w = true := by
  simp only [Category.covers, List.any_eq_true]
  exact ⟨fun ⟨keyword, hk, w, hw, h⟩ => ⟨w, hw, keyword, hk, h⟩,
    fun ⟨w, hw, keyword, hk, h⟩ => ⟨keyword, hk, w, hw, h⟩⟩

theorem covers_mono {ws vs : List Text} (h : ws ⊆ vs) (hc : category.covers ws = true) :
    category.covers vs = true := by
  obtain ⟨w, hw, hfits⟩ := covers_iff.mp hc
  exact covers_iff.mpr ⟨w, h hw, hfits⟩

theorem covers_map_plain (hcategory : category ∈ categories) (ws : List Text) :
    category.covers (ws.map (List.map plain)) = category.covers ws := by
  rw [Bool.eq_iff_iff, covers_iff, covers_iff]
  simp only [List.mem_map, exists_exists_and_eq_and]
  refine exists_congr fun w => and_congr_right fun _ => exists_congr fun keyword =>
    and_congr_right fun hk => ?_
  rw [fits_map_plain (keywords_noSigma category hcategory keyword hk)]

theorem covers_flatMap {α : Type} {l : List α} {f : α → List Text} :
    category.covers (l.flatMap f) = true ↔ ∃ x ∈ l, category.covers (f x) = true := by
  simp only [covers_iff, List.mem_flatMap]
  exact ⟨fun ⟨w, ⟨x, hx, hw⟩, h⟩ => ⟨x, hx, w, hw, h⟩,
    fun ⟨x, hx, w, hw, h⟩ => ⟨w, ⟨x, hx, hw⟩, h⟩⟩

/-- A category covers a topic if it covers one of the words that are spelled in it. -/
theorem covers_words_iff (hcategory : category ∈ categories) :
    category.covers (words t) = true ↔ ∃ w ∈ spelled t, category.covers (words w) = true := by
  rw [← covers_map_plain hcategory, plain_words, covers_flatMap]
  simp only [covers_map_plain hcategory]

theorem words_map_toLower (t : Text) : words (t.map Char.toLower) = words t := by
  rw [words_eq, Text.lower_map_toLower, words_eq]

-- ---------------------------------------------------------------------------
-- The first of a list that has a property
-- ---------------------------------------------------------------------------

section

variable {α : Type} {l : List α} {p q : α → Bool}

theorem findIdx_congr (h : ∀ a ∈ l, p a = q a) : l.findIdx p = l.findIdx q :=
  Nat.le_antisymm (List.findIdx_le_findIdx fun a ha hq => (h a ha).trans hq)
    (List.findIdx_le_findIdx fun a ha hp => (h a ha).symm.trans hp)

theorem findIdx_or (l : List α) (p q : α → Bool) :
    l.findIdx (fun a => p a || q a) = min (l.findIdx p) (l.findIdx q) := by
  induction l with
  | nil => rfl
  | cons a l ih =>
    simp only [List.findIdx_cons, ih]
    cases p a <;> cases q a <;> simp [Nat.add_min_add_right]

theorem findIdx_any {β : Type} (l : List α) (xs : List β) (p : β → α → Bool) :
    l.findIdx (fun a => xs.any fun x => p x a) =
      (xs.map fun x => l.findIdx (p x)).foldr min l.length := by
  induction xs with
  | nil => exact List.findIdx_eq_length.mpr fun _ _ => rfl
  | cons x xs ih => simp only [List.any_cons, findIdx_or, ih, List.map_cons, List.foldr_cons]

theorem findIdx_lt_iff {n : Nat} (h : n ≤ l.length) :
    l.findIdx p < n ↔ ∃ a ∈ l.take n, p a = true := by
  induction l generalizing n with
  | nil => simp_all
  | cons a l ih =>
    cases n with
    | zero => simp
    | succ n =>
      rw [List.findIdx_cons, List.take_succ_cons]
      cases hp : p a with
      | true => simp [hp]
      | false => simp [hp, ih (Nat.le_of_succ_le_succ h)]

end

-- ---------------------------------------------------------------------------
-- Ranks
-- ---------------------------------------------------------------------------

/-- The place of a category in the order in which they are tried, the general one being the last. -/
def rank (category : Category) : Nat :=
  ((categories ++ [general]).map (·.slug)).idxOf category.slug

theorem rank_getElem : ∀ i : Fin categories.length, rank categories[i] = i := by
  decide

theorem rank_general : rank general = categories.length := by
  decide

/-- The rank of the first category that covers some words. -/
def firstCovering (ws : List Text) : Nat := categories.findIdx (·.covers ws)

theorem classify_eq_getElem? (t : Text) :
    classify t = categories[firstCovering (words t)]?.getD general := by
  rw [classify, List.find?_eq_getElem?_findIdx, firstCovering]

theorem rank_classify (t : Text) : rank (classify t) = firstCovering (words t) := by
  rw [classify_eq_getElem?]
  have hle : firstCovering (words t) ≤ categories.length := List.findIdx_le_length
  rcases Nat.lt_or_eq_of_le hle with h | h
  · rw [List.getElem?_eq_getElem h]
    exact rank_getElem ⟨_, h⟩
  · rw [h, List.getElem?_eq_none (Nat.le_refl _)]
    exact rank_general

/-- Topics of one rank are of one category. -/
theorem classify_eq_of_rank (h : rank (classify t) = rank (classify u)) :
    classify t = classify u := by
  rw [rank_classify, rank_classify] at h
  rw [classify_eq_getElem?, h, classify_eq_getElem?]

theorem rank_classify_append (t u : Text) :
    rank (classify (t ++ ' ' :: u)) = min (rank (classify t)) (rank (classify u)) := by
  rw [rank_classify, rank_classify, rank_classify]
  refine (findIdx_congr fun category hcategory => ?_).trans (findIdx_or categories _ _)
  have hspace : Text.isAlphanumeric ' ' = false := by decide
  rw [Bool.eq_iff_iff, Bool.or_eq_true, covers_words_iff hcategory, covers_words_iff hcategory,
    covers_words_iff hcategory, spelled_append hspace]
  simp only [List.mem_append, or_and_right, exists_or]

theorem rank_classify_eq_least (t : Text) :
    rank (classify t) =
      ((spelled t).map fun w => rank (classify w)).foldr min categories.length := by
  simp only [rank_classify, firstCovering]
  refine (findIdx_congr fun category hcategory => ?_).trans (findIdx_any categories _ _)
  rw [Bool.eq_iff_iff, covers_words_iff hcategory, List.any_eq_true]

theorem rank_le_of_words (h : words t ⊆ words u) : rank (classify u) ≤ rank (classify t) := by
  rw [rank_classify, rank_classify]
  exact List.findIdx_le_findIdx fun _ _ hc => covers_mono h hc

theorem rank_le_of_spelled (h : spelled (t.map Char.toLower) ⊆ spelled (u.map Char.toLower)) :
    rank (classify u) ≤ rank (classify t) := by
  rw [rank_classify, rank_classify]
  refine List.findIdx_le_findIdx fun category hcategory hc => ?_
  rw [← words_map_toLower, covers_words_iff hcategory] at hc ⊢
  obtain ⟨w, hw, hc⟩ := hc
  exact ⟨w, h hw, hc⟩

theorem rank_lt_iff {n : Nat} (h : n ≤ categories.length) : rank (classify t) < n ↔
    ∃ category ∈ categories.take n, ∃ w ∈ words t, ∃ keyword ∈ category.keywords,
      keyword.fits w = true := by
  rw [rank_classify, firstCovering, findIdx_lt_iff h]
  simp only [covers_iff]

/-- The rank of a topic is the least of the ranks of its words, however these are ordered, repeated,
divided and capitalized, and more words can only lower it. It is that of the first category with a
keyword that fits a word: the keyword itself or its plural, or any word that starts with a stem. -/
theorem classifies_by_words (t u : Text) :
    rank (classify (t ++ ' ' :: u)) = min (rank (classify t)) (rank (classify u)) ∧
    rank (classify t) = ((spelled t).map fun w => rank (classify w)).foldr min (rank general) ∧
    (words t ⊆ words u → rank (classify u) ≤ rank (classify t)) ∧
    ((∀ w, w ∈ words t ↔ w ∈ words u) → classify t = classify u) ∧
    ((∀ w, w ∈ spelled (t.map Char.toLower) ↔ w ∈ spelled (u.map Char.toLower)) →
      classify t = classify u) ∧
    (∀ n ≤ categories.length, rank (classify t) < n ↔
      ∃ category ∈ categories.take n, ∃ w ∈ words t, ∃ keyword ∈ category.keywords,
        keyword.fits w = true) ∧
    ∀ w k : Text,
      ((Keyword.word k).fits w = true ↔ w = k ∨ w = k ++ "s" ∨ w = k ++ "es") ∧
      ((Keyword.stem k).fits w = true ↔ k <+: w) := by
  refine ⟨rank_classify_append t u, ?least, rank_le_of_words, ?words, ?spelled,
    fun n hn => rank_lt_iff hn, fun w k => ⟨fits_word_iff, fits_stem_iff⟩⟩
  case least =>
    rw [rank_general]
    exact rank_classify_eq_least t
  case words =>
    intro h
    exact classify_eq_of_rank (Nat.le_antisymm (rank_le_of_words fun w hw => (h w).mpr hw)
      (rank_le_of_words fun w hw => (h w).mp hw))
  case spelled =>
    intro h
    exact classify_eq_of_rank (Nat.le_antisymm (rank_le_of_spelled fun w hw => (h w).mpr hw)
      (rank_le_of_spelled fun w hw => (h w).mp hw))

/-- The second pair of topics has other small letters, for the apostrophe does not end the word that
the sigma stands in. -/
theorem classifies_by_words_told :
    words "Sets & MAPS" ⊆ words "maps, sets/sets" ∧
    (∀ w, w ∈ words "Sets & MAPS" ↔ w ∈ words "maps, sets/sets") ∧
    classify "Sets & MAPS" = classify "maps, sets/sets" ∧
    rank (classify "maps, sets/sets") ≤ rank (classify "Sets & MAPS") ∧
    rank (classify "Sets & MAPS") < 2 ∧ 2 ≤ categories.length ∧
    words "DictΑΣ'Α" ≠ words "dictΑΣ Α" ∧
    spelled (("DictΑΣ'Α" : Text).map Char.toLower) =
      spelled (("dictΑΣ Α" : Text).map Char.toLower) ∧
    classify "DictΑΣ'Α" = classify "dictΑΣ Α" := by
  have hleft : words "Sets & MAPS" = [("sets" : Text), "maps"] := by decide
  have hright : words "maps, sets/sets" = [("maps" : Text), "sets", "sets"] := by decide
  have hmem : ∀ w, w ∈ words "Sets & MAPS" ↔ w ∈ words "maps, sets/sets" := by
    intro w
    rw [hleft, hright]
    simp [or_comm]
  have hgreek : words "DictΑΣ'Α" ≠ words "dictΑΣ Α" ∧
      spelled (("DictΑΣ'Α" : Text).map Char.toLower) =
        spelled (("dictΑΣ Α" : Text).map Char.toLower) := by decide +kernel
  obtain ⟨-, -, hle, hsame, -, hrank, -⟩ := classifies_by_words "Sets & MAPS" "maps, sets/sets"
  obtain ⟨-, -, -, -, halike, -⟩ := classifies_by_words "DictΑΣ'Α" "dictΑΣ Α"
  refine ⟨fun w hw => (hmem w).mp hw, hmem, hsame hmem, hle fun w hw => (hmem w).mp hw, ?_,
    by decide, hgreek.1, hgreek.2, halike fun w => by rw [hgreek.2]⟩
  refine (hrank 2 (by decide)).mpr ⟨dataStructures, by simp [categories], "maps", ?_, ?_⟩
  · decide
  · exact ⟨.word "map", by decide, by decide⟩

end Critique.Topic
