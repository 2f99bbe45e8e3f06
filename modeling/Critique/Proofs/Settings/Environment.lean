import Critique.Proofs.Text.Blank
import Critique.Proofs.Text.Parts
import Critique.Settings.Environment

/-!
# What the environment spells

The ports and switches that variables can spell, between blanks. `port?_eq_some_iff` and
`switch?_eq_some_iff`: these are the values that are read.
-/

namespace Critique

open Text (blank isBlank trim)

-- ---------------------------------------------------------------------------
-- Digits
-- ---------------------------------------------------------------------------

namespace Decimal

theorem appendDigits_cons (n : Nat) (c : Char) (digits : Text) :
    appendDigits n (c :: digits) = appendDigits (appendDigits n [c]) digits := by
  simp only [appendDigits, List.foldl_cons, List.foldl_nil]

theorem le_appendDigits (n : Nat) (digits : Text) : n ≤ appendDigits n digits := by
  have hstep : ∀ n digit : Nat, n ≤ n * 10 + digit := by omega
  induction digits generalizing n with
  | nil => exact Nat.le_refl _
  | cons c digits ih =>
    rw [appendDigits_cons]
    exact Nat.le_trans (hstep n _) (ih _)

/-- Reading stops as soon as the bound is reached, and more digits only add to the number. -/
theorem below?_eq_some_iff {bound : Nat} (hb : 0 < bound) {digits : Text} {n : Nat} :
    below? bound digits = some n ↔ n = ofDigits digits ∧ n < bound := by
  suffices hfrom : ∀ start < bound,
      digits.foldlM (fun n c => if appendDigits n [c] < bound then some (appendDigits n [c])
        else none) start = some n ↔ n = appendDigits start digits ∧ n < bound from hfrom 0 hb
  induction digits with
  | nil =>
    intro start hstart
    simp only [List.foldlM_nil, Option.pure_def, Option.some.injEq]
    constructor
    · rintro rfl
      exact ⟨rfl, hstart⟩
    · exact fun h => h.1.symm
  | cons c digits ih =>
    intro start _
    rw [List.foldlM_cons, appendDigits_cons start c digits]
    by_cases hmore : appendDigits start [c] < bound
    · rw [if_pos hmore]
      exact ih _ hmore
    · have hle := le_appendDigits (appendDigits start [c]) digits
      rw [if_neg hmore]
      constructor
      · exact fun h => nomatch h
      · rintro ⟨rfl, hn⟩
        exact absurd (Nat.lt_of_le_of_lt hle hn) hmore

end Decimal

-- ---------------------------------------------------------------------------
-- Ports
-- ---------------------------------------------------------------------------

namespace Environment

/-- A port between blanks: digits, perhaps behind a plus. -/
def SpellsPort (raw : Text) (port : Nat) : Prop :=
  ∃ margin sign digits trail, raw = margin ++ (sign ++ digits) ++ trail ∧
    blank margin = true ∧ blank trail = true ∧ (sign = [] ∨ sign = ['+']) ∧
    digits ≠ [] ∧ (∀ c ∈ digits, Decimal.isDigit c = true) ∧
    port = Decimal.ofDigits digits ∧ port ≤ 65535

theorem isBlank_of_isDigit {c : Char} (h : Decimal.isDigit c = true) : isBlank c = false := by
  cases hb : isBlank c with
  | false => rfl
  | true =>
    have hno : Decimal.isDigit c = false :=
      Text.forall_blank (P := fun c => Decimal.isDigit c = false) (by decide) hb
    exact absurd h (by simp [hno])

theorem portNumber?_eq_some_iff {value : Text} {port : Nat} : portNumber? value = some port ↔
    ∃ sign digits, value = sign ++ digits ∧ (sign = [] ∨ sign = ['+']) ∧ digits ≠ [] ∧
      (∀ c ∈ digits, Decimal.isDigit c = true) ∧
      port = Decimal.ofDigits digits ∧ port ≤ 65535 := by
  have hread : ∀ digits : Text,
      (if digits.isEmpty || !digits.all Decimal.isDigit then none
        else Decimal.below? 65536 digits) = some port ↔
      digits ≠ [] ∧ (∀ c ∈ digits, Decimal.isDigit c = true) ∧
        port = Decimal.ofDigits digits ∧ port ≤ 65535 := by
    intro digits
    rw [Option.ite_none_left_eq_some, Decimal.below?_eq_some_iff (by decide)]
    simp [Nat.lt_succ_iff, and_assoc]
  have hsign : ∀ digits : Text, (∀ c ∈ digits, Decimal.isDigit c = true) →
      Text.after? ['+'] digits = none := by
    intro digits hd
    rw [Text.after?_eq_none_iff]
    rintro ⟨rest, rfl⟩
    exact absurd (hd '+' List.mem_cons_self) (by decide)
  rw [portNumber?, hread]
  constructor
  · intro h
    cases ha : Text.after? ['+'] value with
    | none =>
      rw [ha] at h
      exact ⟨[], value, rfl, .inl rfl, h⟩
    | some digits =>
      rw [ha] at h
      exact ⟨['+'], digits, Text.after?_eq_some_iff.mp ha, .inr rfl, h⟩
  · rintro ⟨sign, digits, rfl, rfl | rfl, hne, hd, hn⟩
    · rw [List.nil_append, hsign digits hd]
      exact ⟨hne, hd, hn⟩
    · exact ⟨hne, hd, hn⟩

theorem port?_eq_some_iff (raw : Text) (port : Nat) :
    port? raw = some port ↔ SpellsPort raw port := by
  rw [port?, portNumber?_eq_some_iff]
  constructor
  · rintro ⟨sign, digits, hraw, hs, hrest⟩
    obtain ⟨margin, trail, hm, ht, he⟩ := Text.exists_trim raw
    exact ⟨margin, sign, digits, trail, hraw ▸ he, hm, ht, hs, hrest⟩
  · rintro ⟨margin, sign, digits, trail, rfl, hm, ht, hs, hne, hd, hn⟩
    have hword : ∀ c ∈ sign ++ digits, isBlank c = false := by
      intro c hc
      rcases List.mem_append.mp hc with hc | hc
      · rcases hs with rfl | rfl
        · cases hc
        · rw [List.mem_singleton.mp hc]
          decide
      · exact isBlank_of_isDigit (hd c hc)
    have htrim := (Text.trim_eq_iff hword).mpr ⟨margin, trail, hm, ht, rfl⟩
    exact ⟨sign, digits, htrim, hs, hne, hd, hn⟩

-- ---------------------------------------------------------------------------
-- Switches
-- ---------------------------------------------------------------------------

def switchWords : Bool → List Text
  | true => onWords
  | false => offWords

/-- A word of a switch between blanks, perhaps in capitals. -/
def SpellsSwitch (raw : Text) (on : Bool) : Prop :=
  ∃ margin word trail, raw = margin ++ word ++ trail ∧ blank margin = true ∧
    blank trail = true ∧ word.map Char.toLower ∈ switchWords on

theorem isBlank_of_switchWord {on : Bool} {word : Text}
    (h : word.map Char.toLower ∈ switchWords on) : ∀ c ∈ word, isBlank c = false := by
  intro c hc
  have hwords : ((switchWords on).all (·.all (!isBlank ·))) = true := by cases on <;> decide
  have hlower : isBlank c.toLower = false := by
    simpa using List.all_eq_true.mp (List.all_eq_true.mp hwords _ h) _ (List.mem_map_of_mem hc)
  cases hb : isBlank c with
  | false => rfl
  | true =>
    -- A blank has no capital.
    have hsame : isBlank c.toLower = true :=
      Text.forall_blank (P := fun c => isBlank c.toLower = true) (by decide) hb
    rw [hsame] at hlower
    cases hlower

theorem switch?_eq_some_iff (raw : Text) (on : Bool) :
    switch? raw = some on ↔ SpellsSwitch raw on := by
  have hread : switch? raw = some on ↔ (trim raw).map Char.toLower ∈ switchWords on := by
    have hdisjoint : ∀ word ∈ onWords, word ∉ offWords := by decide
    simp only [switch?, List.contains_iff_mem]
    split
    · next h =>
      cases on with
      | true => simpa [switchWords] using h
      | false => simpa [switchWords] using hdisjoint _ h
    · next h =>
      cases on with
      | true => simpa [switchWords] using h
      | false => simp [switchWords]
  rw [hread]
  constructor
  · intro h
    obtain ⟨margin, trail, hm, ht, he⟩ := Text.exists_trim raw
    exact ⟨margin, trim raw, trail, he, hm, ht, h⟩
  · rintro ⟨margin, word, trail, he, hm, ht, h⟩
    rwa [(Text.trim_eq_iff (isBlank_of_switchWord h)).mpr ⟨margin, trail, hm, ht, he⟩]

end Environment

end Critique
