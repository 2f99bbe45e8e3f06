import Mathlib.Data.List.Basic
import Critique.Proofs.Text.Blank
import Critique.Proofs.Text.Casing
import Critique.Text.Letters

/-!
# Small letters

What `lower` gives is in small letters already (`lower_lower`). It does not depend on the case of
ASCII letters, nor on the blanks around a text: no blank is a letter, and a sigma at the end of a
word stays there (`trim_lower`).
-/

namespace Critique.Text

variable {c d : Char} {t passed margin trail : Text}

-- ---------------------------------------------------------------------------
-- Characters
-- ---------------------------------------------------------------------------

namespace CaseRun

variable {run other : CaseRun} {n : Nat}

/-- Where a run leads a code point. -/
def code (run : CaseRun) (n : Nat) : Nat := (n + run.shift).toNat

/-- Nothing that a run leads to is covered by another one: the two are apart, or the other one steps
over it. -/
def clears (run other : CaseRun) : Bool :=
  (run.code run.last).blt other.first || other.last.blt (run.code run.first) ||
    ((run.step == 2 || run.first == run.last) && other.step == 2 &&
      (run.code run.first + other.first) % 2 == 1)

/-- A code point is none of a run and none that it leads to. -/
def avoids (run : CaseRun) (n : Nat) : Bool :=
  (n.blt run.first || run.last.blt n) &&
    (n.blt (run.code run.first) || (run.code run.last).blt n)

theorem covers_iff : run.covers n = true ↔
    run.first ≤ n ∧ n ≤ run.last ∧ (n - run.first) % run.step = 0 := by
  simp [covers, and_assoc]

/-- The code points that a run covers. -/
def points (run : CaseRun) : List Nat :=
  List.range' run.first ((run.last - run.first) / run.step + 1) run.step

theorem mem_points (h : run.covers n = true) : n ∈ run.points := by
  obtain ⟨hfirst, hlast, hstep⟩ := covers_iff.mp h
  refine List.mem_range'.mpr ⟨(n - run.first) / run.step, ?_, ?_⟩
  · exact Nat.lt_succ_of_le (Nat.div_le_div_right (Nat.sub_le_sub_right hlast _))
  · rw [Nat.mul_div_cancel' (Nat.dvd_of_mod_eq_zero hstep)]
    omega

theorem shift_pos (hrun : run ∈ lowerRuns) : 0 < run.first + run.shift := by
  rcases lowerRuns_above_ascii run hrun with h | ⟨h, -⟩
  · omega
  · exact h ▸ by decide

theorem not_covers_of_clears (hrun : run ∈ lowerRuns) (hclears : run.clears other = true)
    (hc : run.covers n = true) : other.covers (run.code n) = false := by
  have hpos := shift_pos hrun
  obtain ⟨hfirst, hlast, hstep⟩ := covers_iff.mp hc
  rw [← Bool.not_eq_true, covers_iff]
  rintro ⟨hafter, hbefore, hmod⟩
  simp only [clears, code, Bool.or_eq_true, Bool.and_eq_true, Nat.blt_eq, beq_iff_eq] at *
  rcases hclears with (h | h) | ⟨⟨h, hother⟩, hodd⟩
  · omega
  · omega
  · rw [hother] at hmod
    rcases h with h | h
    · rw [h] at hstep
      omega
    · omega

theorem code_eq (h : ¬ (run.apply n).toNat < 128) : run.code n = (run.apply n).toNat :=
  eq_of_ofNat_eq rfl fun hzero => h (by rw [hzero]; decide)

theorem ne_of_avoids (hrun : run ∈ lowerRuns) (hn : run.covers n = true) {m : Nat}
    (h : run.avoids m = true) : n ≠ m ∧ run.code n ≠ m := by
  have hpos := shift_pos hrun
  obtain ⟨hfirst, hlast, -⟩ := covers_iff.mp hn
  simp only [avoids, code, Bool.or_eq_true, Bool.and_eq_true, Nat.blt_eq] at *
  omega

end CaseRun

-- The dotted capital (304) has an entry of its own, so it stands beside the runs here.
theorem lowerRuns_checked : (alphabetic.holds 304 && lowerRuns.all fun run =>
    lowerRuns.all run.clears && (304 :: blankCodes).all run.avoids &&
      run.points.all alphabetic.holds) = true := by
  decide +kernel

theorem dotted_is_letter : alphabetic.holds 304 = true :=
  (Bool.and_eq_true_iff.mp lowerRuns_checked).1

/-- A run leads to no capital, is apart from the blanks and covers letters alone. -/
structure CaseRun.Proper (run : CaseRun) : Prop where
  clears : ∀ other ∈ lowerRuns, run.clears other = true
  avoids : ∀ n ∈ 304 :: blankCodes, run.avoids n = true
  letters : ∀ n, run.covers n = true → alphabetic.holds n = true

theorem proper_of_mem {run : CaseRun} (hrun : run ∈ lowerRuns) : run.Proper := by
  have h := List.all_eq_true.mp (Bool.and_eq_true_iff.mp lowerRuns_checked).2 run hrun
  simp only [Bool.and_eq_true, List.all_eq_true] at h
  obtain ⟨⟨hclears, havoids⟩, hletters⟩ := h
  exact ⟨hclears, havoids, fun n hn => hletters n (CaseRun.mem_points hn)⟩

/-- What a run leads to is small already. -/
theorem lowerChar_apply {run : CaseRun} (hrun : run ∈ lowerRuns) {n : Nat}
    (hc : run.covers n = true) : lowerChar (run.apply n) = [run.apply n] := by
  by_cases hsmall : (run.apply n).toNat < 128
  · rcases CaseRun.apply_ascii hrun hc hsmall with h | h <;> rw [h] <;> rfl
  · have hcode := CaseRun.code_eq hsmall
    have hdotted : run.code n ≠ 304 :=
      (CaseRun.ne_of_avoids hrun hc ((proper_of_mem hrun).avoids _ List.mem_cons_self)).2
    have hnone : lowerRuns.find? (·.covers (run.apply n).toNat) = none := by
      refine List.find?_eq_none.mpr fun other hother => ?_
      have hclears := (proper_of_mem hrun).clears other hother
      rw [← hcode, CaseRun.not_covers_of_clears hrun hclears hc]
      exact Bool.false_ne_true
    rw [lowerChar, if_neg hsmall, if_neg (hcode ▸ hdotted), hnone]

/-- What a run leads to and what it covers are no blanks. -/
theorem isBlank_apply {run : CaseRun} (hrun : run ∈ lowerRuns) (hc : run.covers c.toNat = true) :
    isBlank c = false ∧ isBlank (run.apply c.toNat) = false := by
  have hcodes : ∀ {d : Char}, isBlank d = true → run.avoids d.toNat = true := fun hd =>
    (proper_of_mem hrun).avoids _ (List.mem_cons_of_mem _
      (forall_blank (P := fun d => d.toNat ∈ blankCodes) (by decide) hd))
  refine ⟨Bool.eq_false_iff.mpr fun hblank => ?_, Bool.eq_false_iff.mpr fun hblank => ?_⟩
  · exact (CaseRun.ne_of_avoids hrun hc (hcodes hblank)).1 rfl
  · by_cases hsmall : (run.apply c.toNat).toNat < 128
    · rcases CaseRun.apply_ascii hrun hc hsmall with h | h <;>
        exact absurd hblank (h ▸ by decide)
    · exact (CaseRun.ne_of_avoids hrun hc (hcodes hblank)).2 (CaseRun.code_eq hsmall)

theorem lowerChar_of_mem (h : d ∈ lowerChar c) : lowerChar d = [d] := by
  rcases lowerChar_eq c with ⟨hascii, hc⟩ | ⟨-, hc⟩ | ⟨-, ⟨run, hrun, hcovers, hc⟩ | hc⟩
  · obtain rfl := List.mem_singleton.mp (hc ▸ h)
    exact forall_ascii (P := fun c => lowerChar c.toLower = [c.toLower]) (by decide) hascii
  · rw [hc, List.mem_cons, List.mem_singleton] at h
    rcases h with rfl | rfl <;> decide
  · obtain rfl := List.mem_singleton.mp (hc ▸ h)
    exact lowerChar_apply hrun hcovers
  · obtain rfl := List.mem_singleton.mp (hc ▸ h)
    exact hc

/-- Only letters have another small form. -/
theorem lowerChar_of_other (h : isAlphanumeric c = false) : lowerChar c = [c] := by
  have hnone : 128 ≤ c.toNat → alphabetic.holds c.toNat = false := by
    intro hwide
    have hother : isAlphabetic c = false := (Bool.or_eq_false_iff.mp h).1
    rwa [isAlphabetic, if_neg (Nat.not_lt.mpr hwide)] at hother
  rcases lowerChar_eq c with ⟨hascii, -⟩ | ⟨rfl, -⟩ | ⟨hwide, ⟨run, hrun, hcovers, -⟩ | hc⟩
  · exact forall_ascii (P := fun c => isAlphanumeric c = false → lowerChar c = [c]) (by decide)
      hascii h
  · exact absurd dotted_is_letter (Bool.eq_false_iff.mp (hnone (by decide)))
  · have hletter := (proper_of_mem hrun).letters _ hcovers
    exact absurd hletter (Bool.eq_false_iff.mp (hnone hwide))
  · exact hc

theorem isBlank_of_mem_lowerChar (h : d ∈ lowerChar c) : isBlank d = isBlank c := by
  rcases lowerChar_eq c with ⟨hascii, hc⟩ | ⟨rfl, hc⟩ | ⟨-, ⟨run, hrun, hcovers, hc⟩ | hc⟩
  · obtain rfl := List.mem_singleton.mp (hc ▸ h)
    exact forall_ascii (P := fun c => isBlank c.toLower = isBlank c) (by decide) hascii
  · rw [hc, List.mem_cons, List.mem_singleton] at h
    rcases h with rfl | rfl <;> decide
  · obtain rfl := List.mem_singleton.mp (hc ▸ h)
    obtain ⟨hcapital, hsmall⟩ := isBlank_apply hrun hcovers
    rw [hcapital, hsmall]
  · obtain rfl := List.mem_singleton.mp (hc ▸ h)
    rfl

-- ---------------------------------------------------------------------------
-- Texts
-- ---------------------------------------------------------------------------

/-- What stands in the small letters of a text where one of its characters does. -/
theorem exists_small (passed : Text) (c : Char) (rest : Text) :
    ∃ small, lowerAfter passed (c :: rest) = small ++ lowerAfter (c :: passed) rest ∧ small ≠ [] ∧
      ∀ d ∈ small, lowerChar d = [d] ∧ isBlank d = isBlank c := by
  rw [lowerAfter]
  by_cases hsigma : c = 'Σ'
  · subst hsigma
    rw [if_pos rfl]
    refine ⟨_, rfl, ?_, ?_⟩
    · split <;> exact List.cons_ne_nil _ _
    · split <;> exact List.forall_mem_singleton.mpr ⟨by decide, by decide⟩
  · rw [if_neg hsigma]
    refine ⟨_, rfl, ?_, fun d hd => ⟨lowerChar_of_mem hd, isBlank_of_mem_lowerChar hd⟩⟩
    rcases lowerChar_eq c with ⟨-, h⟩ | ⟨-, h⟩ | ⟨-, ⟨run, -, -, h⟩ | h⟩ <;> simp [h]

theorem lower_eq_nil_iff : lower t = [] ↔ t = [] := by
  cases t with
  | nil => exact iff_of_true rfl rfl
  | cons c t =>
    obtain ⟨small, hcons, hne, -⟩ := exists_small [] c t
    exact iff_of_false (by simp [lower, hcons, hne]) (List.cons_ne_nil c t)

theorem lowerChar_of_mem_lowerAfter (h : d ∈ lowerAfter passed t) : lowerChar d = [d] := by
  induction t generalizing passed with
  | nil => cases h
  | cons c t ih =>
    obtain ⟨small, hcons, -, hsmall⟩ := exists_small passed c t
    rw [hcons, List.mem_append] at h
    exact h.elim (fun h => (hsmall d h).1) ih

theorem lowerAfter_of_small (h : ∀ c ∈ t, lowerChar c = [c]) (passed : Text) :
    lowerAfter passed t = t := by
  induction t generalizing passed with
  | nil => rfl
  | cons c t ih =>
    obtain ⟨hc, ht⟩ := List.forall_mem_cons.mp h
    have hsigma : c ≠ 'Σ' := by
      rintro rfl
      exact absurd hc (by decide)
    rw [lowerAfter, if_neg hsigma, hc, ih ht, List.singleton_append]

theorem lower_lower (t : Text) : lower (lower t) = lower t :=
  lowerAfter_of_small (fun _ => lowerChar_of_mem_lowerAfter) []

-- ---------------------------------------------------------------------------
-- ASCII letters
-- ---------------------------------------------------------------------------

/-- A property of a character that does not tell ASCII capitals from small letters. -/
theorem toLower_congr {α : Type} {f : Char → α}
    (h : ∀ n < 128, f (Char.ofNat n).toLower = f (Char.ofNat n)) (c : Char) :
    f c.toLower = f c := by
  by_cases hc : c.toNat < 128
  · exact forall_ascii (P := fun c => f c.toLower = f c) h hc
  · rw [toLower_of_wide (Nat.le_of_not_lt hc)]

theorem isBlank_toLower (c : Char) : isBlank c.toLower = isBlank c := toLower_congr (by decide) c

theorem lowerChar_toLower (c : Char) : lowerChar c.toLower = lowerChar c :=
  toLower_congr (by decide) c

theorem startsCased_map_toLower (t : Text) : startsCased (t.map Char.toLower) = startsCased t := by
  have hignorable : isCaseIgnorable ∘ Char.toLower = isCaseIgnorable :=
    funext (toLower_congr (by decide))
  rw [startsCased, startsCased, List.dropWhile_map, hignorable]
  cases t.dropWhile isCaseIgnorable with
  | nil => rfl
  | cons c rest => exact toLower_congr (f := isCased) (by decide) c

theorem lowerAfter_map_toLower (passed t : Text) :
    lowerAfter (passed.map Char.toLower) (t.map Char.toLower) = lowerAfter passed t := by
  induction t generalizing passed with
  | nil => rfl
  | cons c t ih =>
    have hsigma : c.toLower = 'Σ' ↔ c = 'Σ' :=
      decide_eq_decide.mp (toLower_congr (f := fun c => decide (c = 'Σ')) (by decide) c)
    rw [List.map_cons, lowerAfter, lowerAfter, ← List.map_cons, ih, lowerChar_toLower,
      startsCased_map_toLower, startsCased_map_toLower]
    simp only [hsigma]

theorem lower_map_toLower (t : Text) : lower (t.map Char.toLower) = lower t :=
  lowerAfter_map_toLower [] t

theorem trim_map_toLower (t : Text) : trim (t.map Char.toLower) = (trim t).map Char.toLower := by
  have hblank : isBlank ∘ Char.toLower = isBlank := funext isBlank_toLower
  rw [trim, trimStart, List.dropWhile_map, hblank, trimEnd, ← List.map_reverse, List.dropWhile_map,
    hblank, ← List.map_reverse]
  rfl

-- ---------------------------------------------------------------------------
-- Blanks around a text
-- ---------------------------------------------------------------------------

theorem startsCased_cons (c : Char) (t : Text) :
    startsCased (c :: t) = if isCaseIgnorable c then startsCased t else isCased c := by
  rw [startsCased, List.dropWhile_cons]
  by_cases h : isCaseIgnorable c = true
  · rw [if_pos h, if_pos h, startsCased]
  · rw [if_neg h, if_neg h]

/-- A blank ends the search for a cased neighbour. -/
theorem startsCased_cons_blank (h : isBlank c = true) (t : Text) :
    startsCased (c :: t) = false := by
  obtain ⟨-, -, hignorable, hcased⟩ := apart_of_isBlank h
  rw [startsCased_cons, hignorable, hcased]
  rfl

theorem startsCased_append_blank (ht : blank trail = true) (t : Text) :
    startsCased (t ++ trail) = startsCased t := by
  induction t with
  | nil =>
    cases trail with
    | nil => rfl
    | cons c trail => exact startsCased_cons_blank (blank_cons.mp ht).1 trail
  | cons c t ih => rw [List.cons_append, startsCased_cons, startsCased_cons, ih]

theorem lowerAfter_congr {other : Text} (h : startsCased passed = startsCased other) (t : Text) :
    lowerAfter passed t = lowerAfter other t := by
  induction t generalizing passed other with
  | nil => rfl
  | cons c t ih =>
    have hnext : startsCased (c :: passed) = startsCased (c :: other) := by
      rw [startsCased_cons, startsCased_cons, h]
    rw [lowerAfter, lowerAfter, h, ih hnext]

theorem lowerAfter_cons_blank (h : isBlank c = true) (passed t : Text) :
    lowerAfter passed (c :: t) = c :: lower t := by
  have hsigma : c ≠ 'Σ' := by
    rintro rfl
    exact absurd h (by decide)
  have hc : lowerChar c = [c] := lowerChar_of_other (isAlphanumeric_of_isBlank h)
  have hfresh : startsCased (c :: passed) = startsCased [] := startsCased_cons_blank h passed
  rw [lowerAfter, if_neg hsigma, hc, lowerAfter_congr hfresh, List.singleton_append, lower]

theorem lower_of_blank (h : blank t = true) : lower t = t := by
  induction t with
  | nil => rfl
  | cons c t ih =>
    obtain ⟨hc, ht⟩ := blank_cons.mp h
    rw [lower, lowerAfter_cons_blank hc, ih ht]

theorem lower_blank_append (hm : blank margin = true) (t : Text) :
    lower (margin ++ t) = margin ++ lower t := by
  induction margin with
  | nil => rfl
  | cons c margin ih =>
    obtain ⟨hc, hm⟩ := blank_cons.mp hm
    rw [List.cons_append, lower, lowerAfter_cons_blank hc, ih hm, List.cons_append]

theorem lowerAfter_append_blank (ht : blank trail = true) (passed t : Text) :
    lowerAfter passed (t ++ trail) = lowerAfter passed t ++ trail := by
  induction t generalizing passed with
  | nil =>
    cases trail with
    | nil => rfl
    | cons c trail =>
      obtain ⟨hc, ht⟩ := blank_cons.mp ht
      exact (lowerAfter_cons_blank hc passed trail).trans (by rw [lower_of_blank ht]; rfl)
  | cons c t ih =>
    rw [List.cons_append, lowerAfter, startsCased_append_blank ht, ih, lowerAfter,
      List.append_assoc]

theorem isBlank_head?_lowerAfter (h : ∀ c ∈ t.head?, isBlank c = false) (passed : Text) :
    ∀ d ∈ (lowerAfter passed t).head?, isBlank d = false := by
  cases t with
  | nil => exact fun d hd => nomatch hd
  | cons c t =>
    obtain ⟨small, hcons, hne, hsmall⟩ := exists_small passed c t
    obtain ⟨e, rest, rfl⟩ := List.exists_cons_of_ne_nil hne
    rw [hcons]
    rintro d ⟨⟩
    rw [(hsmall e List.mem_cons_self).2, h c rfl]

theorem isBlank_getLast?_lowerAfter (h : ∀ c ∈ t.getLast?, isBlank c = false) (passed : Text) :
    ∀ d ∈ (lowerAfter passed t).getLast?, isBlank d = false := by
  induction t generalizing passed with
  | nil => exact fun d hd => nomatch hd
  | cons c t ih =>
    obtain ⟨small, hcons, -, hsmall⟩ := exists_small passed c t
    cases t with
    | nil =>
      intro d hd
      rw [hcons, lowerAfter, List.append_nil] at hd
      rw [(hsmall d (List.mem_of_getLast? hd)).2, h c rfl]
    | cons e t =>
      obtain ⟨next, hnext, hne, -⟩ := exists_small (c :: passed) e t
      have hrest : lowerAfter (c :: passed) (e :: t) ≠ [] := by simp [hnext, hne]
      rw [hcons, List.getLast?_append_of_ne_nil _ hrest]
      exact ih (by simpa using h) (c :: passed)

theorem trim_lower (t : Text) : trim (lower t) = lower (trim t) := by
  obtain ⟨margin, trail, hm, ht, he⟩ := exists_trim t
  have hlower : lower t = margin ++ (lower (trim t) ++ trail) := by
    conv => lhs; rw [he, List.append_assoc, lower_blank_append hm]
    rw [lower, lowerAfter_append_blank ht, lower]
  rw [hlower, trim_blank_append hm, trim_append_blank ht]
  obtain ⟨hhead, hlast⟩ := isBlank_ends_trim t
  exact trim_of_ends (isBlank_head?_lowerAfter hhead []) (isBlank_getLast?_lowerAfter hlast [])

theorem blank_lower (t : Text) : blank (lower t) = blank t := by
  rw [Bool.eq_iff_iff, blank_iff_trim, blank_iff_trim, trim_lower, lower_eq_nil_iff]

end Critique.Text
