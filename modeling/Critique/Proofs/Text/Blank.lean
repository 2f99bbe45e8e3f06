import Mathlib.Data.List.TakeWhile
import Critique.Text.Casing
import Critique.Text.Letters
import Critique.Text.Words

/-!
# Blank characters

Blank characters are few, so what all of them have in common is checked one by one. The blanks
around a text can be told apart from it: a text is its trimmed start and a blank end.
-/

namespace Critique.Text

variable {c : Char} {t : Text}

def blankCodes : List Nat :=
  List.range' 9 5 ++ [0x20, 0x85, 0xA0, 0x1680] ++ List.range' 0x2000 11 ++
    [0x2028, 0x2029, 0x202F, 0x205F, 0x3000]

/-- A property of all blank characters, checked one by one. -/
theorem forall_blank {P : Char → Prop} (h : ∀ n ∈ blankCodes, P (Char.ofNat n))
    (hc : isBlank c = true) : P c := by
  have hn : c.toNat ∈ blankCodes := by
    simp only [isBlank, Bool.or_eq_true, Bool.and_eq_true, decide_eq_true_eq, beq_iff_eq] at hc
    simp only [blankCodes, List.mem_append, List.mem_range'_1, List.mem_cons, List.not_mem_nil,
      or_false]
    omega
  have hp := h c.toNat hn
  rwa [Char.ofNat_toNat] at hp

/-- Blanks are in none of the classes that the parts of a word are told by. -/
theorem apart_of_isBlank (h : isBlank c = true) : isWord c = false ∧ isAlphanumeric c = false ∧
    isCaseIgnorable c = false ∧ isCased c = false :=
  forall_blank (P := fun c => isWord c = false ∧ isAlphanumeric c = false ∧
    isCaseIgnorable c = false ∧ isCased c = false) (by decide +kernel) h

theorem isWord_of_isBlank (h : isBlank c = true) : isWord c = false := (apart_of_isBlank h).1

theorem isAlphanumeric_of_isBlank (h : isBlank c = true) : isAlphanumeric c = false :=
  (apart_of_isBlank h).2.1

-- ---------------------------------------------------------------------------
-- Blanks around a text
-- ---------------------------------------------------------------------------

variable {margin trail : Text}

theorem blank_cons : blank (c :: t) = true ↔ isBlank c = true ∧ blank t = true := by simp [blank]

theorem blank_append : blank (t ++ trail) = (blank t && blank trail) := List.all_append

theorem blank_append_of_blank (h : blank t = true) (ht : blank trail = true) :
    blank (t ++ trail) = true := by
  rw [blank_append, h, ht, Bool.true_and]

theorem trimStart_blank_append (hm : blank margin = true) (t : Text) :
    trimStart (margin ++ t) = trimStart t :=
  List.dropWhile_append_of_pos (List.all_eq_true.mp hm)

theorem trimEnd_append_blank (ht : blank trail = true) (t : Text) :
    trimEnd (t ++ trail) = trimEnd t := by
  have hr : ∀ c ∈ trail.reverse, isBlank c = true := by simpa using List.all_eq_true.mp ht
  rw [trimEnd, List.reverse_append, List.dropWhile_append_of_pos hr, trimEnd]

theorem trimStart_of_blank (h : blank t = true) : trimStart t = [] :=
  List.dropWhile_eq_nil_iff.mpr (List.all_eq_true.mp h)

theorem trimStart_append_blank (h : blank t = false) (trail : Text) :
    trimStart (t ++ trail) = trimStart t ++ trail := by
  rw [trimStart, List.dropWhile_append, if_neg]
  · rfl
  · simpa [blank, List.dropWhile_eq_nil_iff] using h

theorem trim_blank_append (hm : blank margin = true) (t : Text) :
    trim (margin ++ t) = trim t := by
  rw [trim, trimStart_blank_append hm, trim]

theorem trim_append_blank (ht : blank trail = true) (t : Text) : trim (t ++ trail) = trim t := by
  cases h : blank t with
  | true =>
    rw [trim, trim, trimStart_of_blank (blank_append_of_blank h ht), trimStart_of_blank h]
  | false => rw [trim, trim, trimStart_append_blank h, trimEnd_append_blank ht]

/-- A word ends where something begins that does not belong to it. -/
theorem takeWhile_append_of_head {p : Char → Bool} {more : Text}
    (h : ∀ c ∈ more.head?, p c = false) (l : Text) :
    (l ++ more).takeWhile p = l.takeWhile p := by
  induction l with
  | nil =>
    cases more with
    | nil => rfl
    | cons c more => simp [h c rfl]
  | cons c l ih => simp [List.takeWhile_cons, ih]

theorem head_of_blank (ht : blank trail = true) : ∀ c ∈ trail.head?, isBlank c = true :=
  fun c hc => List.all_eq_true.mp ht c (List.mem_of_mem_head? hc)

/-- What is cut from the end of a text is blank. -/
theorem exists_trimEnd (t : Text) : ∃ trail, blank trail = true ∧ t = trimEnd t ++ trail := by
  refine ⟨(t.reverse.takeWhile isBlank).reverse, ?_, ?_⟩
  · rw [blank, List.all_reverse]
    exact List.all_takeWhile
  · rw [trimEnd, ← List.reverse_append, List.takeWhile_append_dropWhile, List.reverse_reverse]

/-- A text is its trimmed text between blanks. -/
theorem exists_trim (t : Text) : ∃ margin trail, blank margin = true ∧ blank trail = true ∧
    t = margin ++ trim t ++ trail := by
  obtain ⟨trail, ht, he⟩ := exists_trimEnd (trimStart t)
  refine ⟨t.takeWhile isBlank, trail, List.all_takeWhile, ht, ?_⟩
  rw [List.append_assoc, trim, ← he]
  exact List.takeWhile_append_dropWhile.symm

theorem blank_trim (t : Text) : blank (trim t) = blank t := by
  obtain ⟨margin, trail, hm, ht, he⟩ := exists_trim t
  conv => rhs; rw [he, blank_append, blank_append, hm, ht, Bool.true_and, Bool.and_true]

theorem blank_iff_trim : blank t = true ↔ trim t = [] := by
  refine ⟨fun h => ?_, fun h => ?_⟩
  · rw [trim, trimStart_of_blank h]
    rfl
  · rw [← blank_trim, h]
    rfl

theorem trimStart_of_head (h : ∀ c ∈ t.head?, isBlank c = false) : trimStart t = t := by
  cases t with
  | nil => rfl
  | cons c t => exact List.dropWhile_cons_of_neg (by simp [h c rfl])

theorem trim_of_ends (hhead : ∀ c ∈ t.head?, isBlank c = false)
    (hlast : ∀ c ∈ t.getLast?, isBlank c = false) : trim t = t := by
  have hreverse : trimStart t.reverse = t.reverse :=
    trimStart_of_head (by rwa [List.head?_reverse])
  rw [trim, trimStart_of_head hhead, trimEnd, ← trimStart, hreverse, List.reverse_reverse]

theorem trim_of_not_blank (h : ∀ c ∈ t, isBlank c = false) : trim t = t :=
  trim_of_ends (fun c hc => h c (List.mem_of_mem_head? hc))
    fun c hc => h c (List.mem_of_getLast? hc)

/-- What is trimmed to a word without blanks is that word between blanks. -/
theorem trim_eq_iff {word : Text} (h : ∀ c ∈ word, isBlank c = false) : trim t = word ↔
    ∃ margin trail, blank margin = true ∧ blank trail = true ∧ t = margin ++ word ++ trail := by
  constructor
  · rintro rfl
    exact exists_trim t
  · rintro ⟨margin, trail, hm, ht, rfl⟩
    rw [trim_append_blank ht, trim_blank_append hm, trim_of_not_blank h]

theorem blank_trimEnd (t : Text) : blank (trimEnd t) = blank t := by
  obtain ⟨trail, ht, he⟩ := exists_trimEnd t
  conv => rhs; rw [he, blank_append, ht, Bool.and_true]

theorem trimEnd_of_blank (h : blank t = true) : trimEnd t = [] := trimEnd_append_blank h []

/-- What is not blank keeps the blanks in front of it. -/
theorem trimEnd_append (h : blank t = false) (front : Text) :
    trimEnd (front ++ t) = front ++ trimEnd t := by
  have hr : (t.reverse.dropWhile isBlank).isEmpty = false := by
    simpa [blank, List.dropWhile_eq_nil_iff] using h
  rw [trimEnd, List.reverse_append, List.dropWhile_append, hr, if_neg Bool.false_ne_true,
    List.reverse_append, List.reverse_reverse, trimEnd]

theorem trim_cons (hc : isBlank c = false) (t : Text) : trim (c :: t) = c :: trimEnd t := by
  have hstart : trimStart (c :: t) = c :: t := List.dropWhile_cons_of_neg (by simp [hc])
  rw [trim, hstart]
  cases h : blank t with
  | true =>
    have hlast : trimEnd [c] = [c] := by simp [trimEnd, hc]
    rw [trimEnd_of_blank h, ← List.singleton_append, trimEnd_append_blank h, hlast]
  | false => exact trimEnd_append h [c]

theorem trim_trim (t : Text) : trim (trim t) = trim t := by
  obtain ⟨margin, trail, hm, ht, he⟩ := exists_trim t
  conv => rhs; rw [he, trim_append_blank ht, trim_blank_append hm]

theorem trimStart_trim (t : Text) : trimStart (trim t) = trim t := by
  obtain ⟨trail, -, he⟩ := exists_trimEnd (trimStart (trim t))
  have hlost : (trim t).takeWhile isBlank ++ trimStart (trim t) = trim t :=
    List.takeWhile_append_dropWhile
  have htrim : trimEnd (trimStart (trim t)) = trim t := trim_trim t
  have hlength := congrArg List.length hlost
  rw [he, htrim, List.length_append, List.length_append] at hlength
  have hnone : (trim t).takeWhile isBlank = [] := List.eq_nil_of_length_eq_zero (by omega)
  rwa [hnone, List.nil_append] at hlost

theorem trimEnd_trim (t : Text) : trimEnd (trim t) = trim t := by
  conv => lhs; rw [← trimStart_trim t]
  exact trim_trim t

/-- A trimmed text neither starts nor ends with a blank. -/
theorem isBlank_ends_trim (t : Text) : (∀ c ∈ (trim t).head?, isBlank c = false) ∧
    ∀ c ∈ (trim t).getLast?, isBlank c = false := by
  have hstart (u : Text) : ∀ c ∈ (trimStart u).head?, isBlank c = false := by
    intro c hc
    have hstop := List.head?_dropWhile_not isBlank u
    rw [show (u.dropWhile isBlank).head? = some c from hc] at hstop
    simpa using hstop
  constructor
  · rw [← trimStart_trim]
    exact hstart _
  · rw [trim, trimEnd, List.getLast?_reverse]
    exact hstart _

end Critique.Text
