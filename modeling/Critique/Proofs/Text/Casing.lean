import Critique.Text.Casing

/-!
# Letter case

No letter has a line feed in its capital form, so a text on one line stays on one line. In small
letters, most words of ASCII letters stand just where they stand when only the ASCII letters of the
text are made small (`infix_lower_iff`).
-/

namespace Critique.Text

/-- A property of all ASCII characters, checked one by one. -/
theorem forall_ascii {P : Char → Prop} (h : ∀ n < 128, P (Char.ofNat n)) {c : Char}
    (hc : c.toNat < 128) : P c := by
  have hn := h c.toNat hc
  rwa [Char.ofNat_toNat] at hn

theorem toNat_lt_of_isAlphanum {c : Char} (h : c.isAlphanum = true) : c.toNat < 128 := by
  have hlast : c.val ≤ 'Z'.val ∨ c.val ≤ 'z'.val ∨ c.val ≤ '9'.val := by
    rcases Bool.or_eq_true_iff.mp h with halpha | hdigit
    · rcases Bool.or_eq_true_iff.mp halpha with hupper | hlower
      · exact .inl (of_decide_eq_true hupper).2
      · exact .inr (.inl (of_decide_eq_true (Bool.and_eq_true_iff.mp hlower).2))
    · exact .inr (.inr (of_decide_eq_true (Bool.and_eq_true_iff.mp hdigit).2))
  rcases hlast with hz | hz | hz <;>
    exact Nat.lt_of_le_of_lt (UInt32.le_iff_toNat_le.mp hz) (by decide)

/-- A number that stands for no character gives the one with code zero. -/
theorem eq_of_ofNat_eq {n : Nat} {c : Char} (h : Char.ofNat n = c) (hc : c ≠ '\x00') :
    n = c.toNat := by
  by_cases hn : n.isValidChar
  · rw [← h, Char.ofNat, dif_pos hn]
    rfl
  · rw [Char.ofNat, dif_neg hn] at h
    exact absurd h.symm hc

theorem CaseRun.apply_ne_feed {run : CaseRun} {n : Nat} (hc : run.covers n = true)
    (h : 10 < run.first + run.shift) : run.apply n ≠ '\n' := by
  intro hf
  have hn : (n + run.shift).toNat = 10 := eq_of_ofNat_eq hf (by decide)
  simp only [CaseRun.covers, Bool.and_eq_true, decide_eq_true_eq] at hc
  omega

theorem upperRuns_above_feed : ∀ run ∈ upperRuns, 10 < run.first + run.shift := by
  decide +kernel

theorem feed_not_mem_wideCapitals :
    ∀ entry ∈ wideCapitals, '\n' ∉ entry.2.map Char.ofNat := by
  decide +kernel

theorem eq_feed_of_mem_upperChar {c : Char} (h : '\n' ∈ upperChar c) : c = '\n' := by
  unfold upperChar at h
  split at h
  · rename_i hc
    exact forall_ascii (P := fun c => '\n' ∈ [c.toUpper] → c = '\n') (by decide) hc h
  · split at h
    · rename_i wide hw
      obtain ⟨front, back, hs, -⟩ := List.lookup_eq_some_iff.mp hw
      exact absurd h (feed_not_mem_wideCapitals (c.toNat, wide) (by simp [hs]))
    · split at h
      · rename_i run hr
        have hcovers : run.covers c.toNat = true := by simpa using List.find?_some hr
        have hne := CaseRun.apply_ne_feed hcovers
          (upperRuns_above_feed run (List.mem_of_find?_eq_some hr))
        exact absurd (List.mem_singleton.mp h).symm hne
      · exact (List.mem_singleton.mp h).symm

theorem feed_mem_of_mem_upper {t : Text} (h : '\n' ∈ upper t) : '\n' ∈ t := by
  obtain ⟨c, hc, hf⟩ := List.mem_flatMap.mp h
  exact eq_feed_of_mem_upperChar hf ▸ hc

-- ---------------------------------------------------------------------------
-- Words in small letters
-- ---------------------------------------------------------------------------

/-- A word of ASCII characters that no other character can bring about: it has no `k`, which is the
small form of the Kelvin sign, and does not end in `i`, with which that of the dotted capital
starts. -/
def isPlainWord : Text → Bool
  | [] => true
  | c :: rest => c.toNat < 128 && c != 'k' && c != '\x00' && (c != 'i' || !rest.isEmpty) &&
      isPlainWord rest

theorem toLower_of_wide {c : Char} (h : 128 ≤ c.toNat) : c.toLower = c := by
  have hval : ¬ (c.val ≥ 'A'.val ∧ c.val ≤ 'Z'.val) := fun ⟨_, hle⟩ => by
    have hnat : c.toNat ≤ 90 := UInt32.le_iff_toNat_le.mp hle
    omega
  exact dif_neg hval

theorem lowerRuns_above_ascii : ∀ run ∈ lowerRuns, 128 ≤ run.first + run.shift ∨
    run.first + run.shift = 'k'.toNat ∧ run.last = run.first := by
  decide +kernel

theorem CaseRun.apply_ascii {run : CaseRun} (hrun : run ∈ lowerRuns) {n : Nat}
    (hc : run.covers n = true) (h : (run.apply n).toNat < 128) :
    run.apply n = 'k' ∨ run.apply n = '\x00' := by
  by_cases hzero : run.apply n = '\x00'
  · exact .inr hzero
  · have hn : (n + run.shift).toNat = (run.apply n).toNat := eq_of_ofNat_eq rfl hzero
    simp only [CaseRun.covers, Bool.and_eq_true, decide_eq_true_eq] at hc
    rcases lowerRuns_above_ascii run hrun with hwide | ⟨hkelvin, hlast⟩
    · omega
    · refine .inl (Char.toNat_inj.mp ?_)
      omega

/-- Where the small form of a character comes from. -/
theorem lowerChar_eq (c : Char) : c.toNat < 128 ∧ lowerChar c = [c.toLower] ∨
    c = 'İ' ∧ lowerChar c = ['i', '\u0307'] ∨
    128 ≤ c.toNat ∧ ((∃ run ∈ lowerRuns, run.covers c.toNat = true ∧
      lowerChar c = [run.apply c.toNat]) ∨ lowerChar c = [c]) := by
  unfold lowerChar
  split
  case isTrue hascii => exact .inl ⟨hascii, rfl⟩
  case isFalse hascii =>
    refine .inr ?_
    split
    case isTrue hdotted => exact .inl ⟨Char.toNat_inj.mp hdotted, rfl⟩
    case isFalse =>
      refine .inr ⟨Nat.le_of_not_lt hascii, ?_⟩
      split
      case h_1 run hrun =>
        have hcovers : run.covers c.toNat = true := by simpa using List.find?_some hrun
        exact .inl ⟨run, List.mem_of_find?_eq_some hrun, hcovers, rfl⟩
      case h_2 => exact .inr rfl

/-- The small form of one character: of an ASCII character by itself, of any other one that holds
hardly an ASCII character. -/
theorem lowerChar_cases (c : Char) : c.toNat < 128 ∧ lowerChar c = [c.toLower] ∨
    128 ≤ c.toNat ∧ (lowerChar c = ['i', '\u0307'] ∨
      ∃ d, lowerChar c = [d] ∧ (d.toNat < 128 → d = 'k' ∨ d = '\x00')) := by
  rcases lowerChar_eq c with hascii | ⟨rfl, hdotted⟩ | ⟨hwide, ⟨run, hrun, hc, h⟩ | h⟩
  · exact .inl hascii
  · exact .inr ⟨by decide, .inl hdotted⟩
  · exact .inr ⟨hwide, .inr ⟨_, h, CaseRun.apply_ascii hrun hc⟩⟩
  · exact .inr ⟨hwide, .inr ⟨c, h, fun hsmall => absurd hsmall (Nat.not_lt.mpr hwide)⟩⟩

theorem lowerAfter_cases (passed : Text) (c : Char) (rest : Text) :
    (∃ d, lowerAfter passed (c :: rest) = d :: lowerAfter (c :: passed) rest ∧
      (c.toLower = d ∨ 128 ≤ c.toNat ∧ (d.toNat < 128 → d = 'k' ∨ d = '\x00'))) ∨
    128 ≤ c.toNat ∧
      lowerAfter passed (c :: rest) = 'i' :: '\u0307' :: lowerAfter (c :: passed) rest := by
  rw [lowerAfter]
  by_cases hsigma : c = 'Σ'
  · subst hsigma
    rw [if_pos rfl]
    refine .inl ⟨if startsCased passed && !startsCased rest then 'ς' else 'σ', ?_, .inr ?_⟩
    · split <;> rfl
    · refine ⟨by decide, ?_⟩
      split <;> exact fun h => absurd h (by decide)
  · rw [if_neg hsigma]
    rcases lowerChar_cases c with ⟨-, hsmall⟩ | ⟨hwide, hdotted | ⟨d, hsmall, hd⟩⟩
    · exact .inl ⟨_, by rw [hsmall, List.singleton_append], .inl rfl⟩
    · exact .inr ⟨hwide, by rw [hdotted]; rfl⟩
    · exact .inl ⟨d, by rw [hsmall, List.singleton_append], .inr ⟨hwide, hd⟩⟩

/-- No plain word starts with the dot of the letter that has one. -/
theorem not_prefix_dot {word : Text} (h : isPlainWord word = true) (hne : word ≠ []) (t : Text) :
    ¬ word <+: '\u0307' :: t := by
  cases word with
  | nil => exact absurd rfl hne
  | cons w word =>
    intro hstart
    obtain ⟨rfl, -⟩ := List.cons_prefix_cons.mp hstart
    exact absurd h (by simp [isPlainWord])

theorem prefix_lowerAfter_iff {word : Text} (h : isPlainWord word = true) (passed t : Text) :
    word <+: lowerAfter passed t ↔ word <+: t.map Char.toLower := by
  induction t generalizing word passed with
  | nil => rfl
  | cons c t ih =>
    cases word with
    | nil => exact iff_of_true List.nil_prefix List.nil_prefix
    | cons w word =>
      simp only [isPlainWord, Bool.and_eq_true, decide_eq_true_eq, bne_iff_ne, ne_eq] at h
      obtain ⟨⟨⟨⟨hw, hk⟩, hzero⟩, hi⟩, hword⟩ := h
      have hforeign : 128 ≤ c.toNat → ¬ w :: word <+: (c :: t).map Char.toLower := by
        intro hwide hstart
        rw [List.map_cons, toLower_of_wide hwide, List.cons_prefix_cons] at hstart
        rw [hstart.1] at hw
        omega
      rcases lowerAfter_cases passed c t with ⟨d, hcons, hd⟩ | ⟨hwide, hcons⟩
      · rw [hcons, List.cons_prefix_cons, ih hword]
        rcases hd with rfl | ⟨hwide, hd⟩
        · rw [List.map_cons, List.cons_prefix_cons]
        · refine iff_of_false (fun ⟨hwd, _⟩ => ?_) (hforeign hwide)
          subst hwd
          exact (hd hw).elim hk hzero
      · rw [hcons]
        refine iff_of_false (fun hstart => ?_) (hforeign hwide)
        obtain ⟨rfl, hrest⟩ := List.cons_prefix_cons.mp hstart
        cases word with
        | nil => simp at hi
        | cons v word => exact not_prefix_dot hword (List.cons_ne_nil v word) _ hrest

theorem infix_lowerAfter_iff {word : Text} (h : isPlainWord word = true) (hne : word ≠ [])
    (passed t : Text) : word <:+: lowerAfter passed t ↔ word <:+: t.map Char.toLower := by
  induction t generalizing passed with
  | nil => rfl
  | cons c t ih =>
    have hstart := prefix_lowerAfter_iff h passed (c :: t)
    rw [List.map_cons] at hstart ⊢
    rw [List.infix_cons_iff, ← hstart, ← ih (c :: passed)]
    rcases lowerAfter_cases passed c t with ⟨d, hcons, -⟩ | ⟨-, hcons⟩
    · rw [hcons, List.infix_cons_iff]
    · rw [hcons, List.infix_cons_iff, List.infix_cons_iff, or_iff_right (not_prefix_dot h hne _)]

/-- A plain word stands in the small letters of a text just where it stands in any case in the
text. -/
theorem infix_lower_iff {word : Text} (h : isPlainWord word = true) (t : Text) :
    word <:+: lower t ↔ word <:+: t.map Char.toLower := by
  by_cases hne : word = []
  · subst hne
    exact iff_of_true List.nil_infix List.nil_infix
  · exact infix_lowerAfter_iff h hne [] t

end Critique.Text
