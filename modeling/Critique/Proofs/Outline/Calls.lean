import Critique.Outline
import Critique.Proofs.Text.Casing
import Critique.Proofs.Text.Parts

/-!
# Calls of a name

A call is looked for among occurrences that do not overlap. `calls_iff_anywhere`: no call is missed
by that, for an occurrence that starts inside another one has a character of the name before it and
so continues a longer name.
-/

namespace Critique.Outline

variable {name t following : Text} {before : Option Char}

theorem isCall_iff : isCall before following = true ↔ (∀ c ∈ before, continuesName c = false) ∧
    ∃ gap rest, following = gap ++ '(' :: rest ∧ ∀ c ∈ gap, c = ' ' ∨ c = '\t' := by
  have hbefore : (!before.any continuesName) = true ↔ ∀ c ∈ before, continuesName c = false := by
    cases before <;> simp
  rw [isCall, Bool.and_eq_true, hbefore, beq_iff_eq]
  refine and_congr_right fun _ => ⟨fun h => ?_, ?_⟩
  · obtain ⟨rest, hrest⟩ := List.head?_eq_some_iff.mp h
    refine ⟨following.takeWhile fun c => c == ' ' || c == '\t', rest, ?_, fun c hc => ?_⟩
    · rw [← hrest, List.takeWhile_append_dropWhile]
    · simpa using List.all_eq_true.mp List.all_takeWhile c hc
  · rintro ⟨gap, rest, rfl, hgap⟩
    rw [List.dropWhile_append_of_pos (by simpa using hgap)]
    rfl

/-- Somewhere in a text behind `before`, the name is called. -/
def CallStands (name : Text) (before : Option Char) (t : Text) : Prop :=
  ∃ front following, t = front ++ (name ++ following) ∧
    isCall (front.getLast?.or before) following = true

theorem not_callStands_nil (hne : name ≠ []) : ¬ CallStands name before [] := by
  rintro ⟨front, following, h, -⟩
  simp_all

theorem callStands_cons {c : Char} : CallStands name before (c :: t) ↔
    (∃ following, c :: t = name ++ following ∧ isCall before following = true) ∨
      CallStands name (some c) t := by
  constructor
  · rintro ⟨front, following, h, hcall⟩
    cases front with
    | nil => exact .inl ⟨following, h, hcall⟩
    | cons d front =>
      obtain ⟨rfl, rfl⟩ := List.cons.inj h
      refine .inr ⟨front, following, rfl, ?_⟩
      rwa [List.getLast?_cons, Option.some_or, ← Option.or_some] at hcall
  · rintro (⟨following, h, hcall⟩ | ⟨front, following, rfl, hcall⟩)
    · exact ⟨[], following, h, hcall⟩
    · refine ⟨c :: front, following, rfl, ?_⟩
      rwa [List.getLast?_cons, Option.some_or, ← Option.or_some]

theorem not_isCall (h : before.any continuesName = true) : isCall before following = false := by
  rw [isCall, h, Bool.not_true, Bool.false_and]

/-- While an occurrence is passed over, every place has a character of it before. -/
theorem callsAfter_iff (hne : name ≠ []) (hname : ∀ c ∈ name, continuesName c = true) (skip : Nat)
    (hbefore : skip ≠ 0 → before.any continuesName = true)
    (hskip : ∀ c ∈ t.take (skip - 1), continuesName c = true) :
    callsAfter name skip before t = true ↔ CallStands name before t := by
  fun_induction callsAfter name skip before t with
  | case1 skip before => simpa using not_callStands_nil hne
  | case2 before skip c rest ih =>
    -- No call starts here, whatever stands here.
    have hnone : ¬ ∃ following, c :: rest = name ++ following ∧ isCall before following = true := by
      rintro ⟨following, -, hcall⟩
      simp [not_isCall (hbefore (Nat.succ_ne_zero skip))] at hcall
    rw [callStands_cons, or_iff_right hnone]
    cases skip with
    | zero => exact ih (absurd rfl) (by simp)
    | succ skip =>
      obtain ⟨hc, hskip⟩ := List.forall_mem_cons.mp hskip
      exact ih (fun _ => hc) hskip
  | case3 before c rest following hafter ih =>
    have hstart : c :: rest = name ++ following := Text.after?_eq_some_iff.mp hafter
    obtain ⟨d, tail, rfl⟩ := List.exists_cons_of_ne_nil hne
    obtain ⟨rfl, rfl⟩ := List.cons.inj hstart
    obtain ⟨hc, htail⟩ := List.forall_mem_cons.mp hname
    have hinside : ∀ d ∈ (tail ++ following).take (tail.length - 1), continuesName d = true := by
      intro d hd
      rw [List.take_append_of_le_length (Nat.sub_le _ _)] at hd
      exact htail d (List.mem_of_mem_take hd)
    rw [callStands_cons, Bool.or_eq_true, ih (fun _ => hc) hinside]
    refine or_congr_left ⟨fun hcall => ⟨following, rfl, hcall⟩, ?_⟩
    rintro ⟨behind, heq, hcall⟩
    obtain rfl : following = behind := (List.append_right_inj (c :: tail)).mp heq
    exact hcall
  | case4 before c rest hafter ih =>
    have hnone : ¬ ∃ following, c :: rest = name ++ following ∧ isCall before following = true :=
      fun ⟨following, hstart, _⟩ => Text.after?_eq_none_iff.mp hafter ⟨following, hstart.symm⟩
    rw [callStands_cons, or_iff_right hnone]
    exact ih (absurd rfl) (by simp)

theorem continuesName_eq_false_iff {c : Char} : continuesName c = false ↔
    Text.isAlphanumeric c = false ∧ c ≠ '_' ∧ c ≠ '$' ∧ c ≠ '.' := by
  simp only [continuesName, Bool.or_eq_false_iff, beq_eq_false_iff_ne, and_assoc]

theorem continuesName_of_isAlphanum {c : Char} (h : c.isAlphanum = true) :
    continuesName c = true := by
  have hsmall := Text.toNat_lt_of_isAlphanum h
  have hletter : Text.isAlphanumeric c = true := by
    rwa [Text.isAlphanumeric, Text.isAlphabetic, Text.isNumber, if_pos hsmall, if_pos hsmall]
  simp [continuesName, hletter]

/-- A name of ASCII characters is called in a text if and only if it stands anywhere in it with
nothing before that would make it a longer name or a member, and with an opening parenthesis behind,
blanks and tabs left out. -/
theorem calls_iff_anywhere (t : Text) (hne : name ≠ [])
    (hname : ∀ c ∈ name, c.isAlphanum = true ∨ c = '_' ∨ c = '$') :
    calls name t = true ↔ ∃ front gap rest, t = front ++ name ++ gap ++ '(' :: rest ∧
      (∀ c ∈ front.getLast?, Text.isAlphanumeric c = false ∧ c ≠ '_' ∧ c ≠ '$' ∧ c ≠ '.') ∧
      ∀ c ∈ gap, c = ' ' ∨ c = '\t' := by
  have hparts : ∀ c ∈ name, continuesName c = true := by
    intro c hc
    rcases hname c hc with h | rfl | rfl
    · exact continuesName_of_isAlphanum h
    · decide
    · decide
  rw [calls, callsAfter_iff hne hparts 0 (absurd rfl) (by simp)]
  simp only [CallStands, Option.or_none, isCall_iff, continuesName_eq_false_iff]
  constructor
  · rintro ⟨front, _, rfl, hbefore, gap, rest, rfl, hgap⟩
    exact ⟨front, gap, rest, by simp only [List.append_assoc], hbefore, hgap⟩
  · rintro ⟨front, gap, rest, rfl, hbefore, hgap⟩
    exact ⟨front, gap ++ '(' :: rest, by simp only [List.append_assoc], hbefore, gap, rest, rfl,
      hgap⟩

/-- Of the occurrences here one overlaps another, one is a member, and the last one is called. -/
theorem calls_aa_anywhere :
    ("aa" : Text) ≠ [] ∧ (∀ c ∈ ("aa" : Text), c.isAlphanum = true ∨ c = '_' ∨ c = '$') ∧
      calls "aa" "aaa(b.aa(aa \t()" = true := by
  have hne : ("aa" : Text) ≠ [] := by decide
  have hname : ∀ c ∈ ("aa" : Text), c.isAlphanum = true ∨ c = '_' ∨ c = '$' := by simp
  have hbefore : ∀ c ∈ ("aaa(b.aa(" : Text).getLast?,
      Text.isAlphanumeric c = false ∧ c ≠ '_' ∧ c ≠ '$' ∧ c ≠ '.' := by
    intro c hc
    obtain rfl : '(' = c := Option.some.inj hc
    decide
  refine ⟨hne, hname, (calls_iff_anywhere _ hne hname).mpr ?_⟩
  exact ⟨"aaa(b.aa(", " \t", ")", rfl, hbefore, by simp⟩

end Critique.Outline
