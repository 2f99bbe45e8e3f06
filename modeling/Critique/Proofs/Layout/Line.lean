import Critique.Outline
import Critique.Metrics
import Critique.Proofs.Pattern.Margin
import Critique.Proofs.Text.Casing

/-!
# What a line says, whatever blanks are around it

Blanks in front of a line raise its indentation by their width. The headers that it opens, the
function that it defines and the names that it calls are those of the line without the blanks
around it.
-/

namespace Critique

open Text (blank isBlank)
open Pattern (isNamePart isNameStart)

variable {margin trail : Text}

-- ---------------------------------------------------------------------------
-- Indentation
-- ---------------------------------------------------------------------------

namespace Layout

theorem indent_margin (hm : blank margin = true) (l : Text) :
    indent (margin ++ l) = indent margin + indent l := by
  have hall := List.all_eq_true.mp hm
  simp only [indent, List.takeWhile_append_of_pos hall, List.takeWhile_eq_self_iff.mpr hall,
    List.map_append, ← List.sum_eq_foldr, List.sum_append]

theorem indent_append {l : Text} (hl : blank l = false) (more : Text) :
    indent (l ++ more) = indent l := by
  have hstop : (l ++ more).takeWhile isBlank = l.takeWhile isBlank := by
    rw [List.takeWhile_append, if_neg]
    intro hlength
    have hall := (List.takeWhile_prefix isBlank).eq_of_length hlength
    have : blank l = true := List.all_eq_true.mpr (List.takeWhile_eq_self_iff.mp hall)
    simp [hl] at this
  rw [indent, hstop, indent]

end Layout

-- ---------------------------------------------------------------------------
-- Headers
-- ---------------------------------------------------------------------------

namespace Metrics

theorem isDeclaration_margin (hm : blank margin = true) (l : Text) :
    isDeclaration (margin ++ l) = isDeclaration l := by
  refine Pattern.occursIn_precede hm rfl (fun q hq => ?_) l
  simp only [declaration, Pattern.inOrder, List.foldr, Pattern.ends,
    Pattern.ends_boundary_of_inMargin hq, List.flatMap_nil, List.append_nil]

end Metrics

namespace Pattern

theorem ends_exactly_of_blankNext {t : Text} (ht : t.head?.any (!isBlank ·) = true) {q : Place}
    (hq : q.after.head?.any isBlank = true) : (exactly t).ends q = [] := by
  obtain ⟨index, before, after⟩ := q
  cases t with
  | nil => cases ht
  | cons d t =>
    cases after with
    | nil => cases hq
    | cons c after =>
      have hc : c ≠ d := by
        rintro rfl
        simp_all
      simp [exactly, ends, Place.next?, hc]

end Pattern

namespace Outline

open Pattern in
theorem loopHeader_margin (hm : blank margin = true) (l : Text) :
    loopHeader.occursIn (margin ++ l) = loopHeader.occursIn l := by
  refine occursIn_afterGap_precede hm (by decide) (fun q hq => ?_) l
  have hfor := ends_exactly_of_blankNext (t := "for") (by decide) hq
  have hwhile := ends_exactly_of_blankNext (t := "while") (by decide) hq
  simp only [words, first, List.map, List.foldr, ends, hfor, hwhile, List.append_nil,
    List.flatMap_nil]

open Pattern in
theorem conditionalHeader_margin (hm : blank margin = true) (l : Text) :
    conditionalHeader.occursIn (margin ++ l) = conditionalHeader.occursIn l := by
  refine occursIn_afterGap_precede hm (by decide) (fun q hq => ?_) l
  have hbrace := ends_exactly_of_blankNext (t := "\x7d") (by decide) hq
  have hif := ends_exactly_of_blankNext (t := "if") (by decide) hq
  have helif := ends_exactly_of_blankNext (t := "elif") (by decide) hq
  have helse := ends_exactly_of_blankNext (t := "else") (by decide) hq
  simp only [inOrder, maybe, first, List.foldr, ends, hbrace, hif, helif, helse, List.append_nil,
    List.flatMap_nil, List.nil_append, List.flatMap_cons]

open Pattern in
theorem loopHeader_append_blank (ht : blank trail = true) (l : Text) :
    loopHeader.occursIn (l ++ trail) = loopHeader.occursIn l :=
  occursIn_extend ht (endsBefore_seq (endsBefore_seq (endsBefore_seq
    (endsBefore_seq_nothing endsBefore_boundary) _) _) _) l

open Pattern in
theorem conditionalHeader_append_blank (ht : blank trail = true) (l : Text) :
    conditionalHeader.occursIn (l ++ trail) = conditionalHeader.occursIn l :=
  occursIn_extend ht (endsBefore_seq (endsBefore_seq (endsBefore_seq (endsBefore_seq
    (endsBefore_seq_nothing endsBefore_boundary) _) _) _) _) l

-- ---------------------------------------------------------------------------
-- Definitions
-- ---------------------------------------------------------------------------

/-- The name of a function whose definition starts in front of a place, and what follows its
parenthesis. -/
def nameAt (place : Place) : Option (Text × Text) :=
  (definitionName.ends place).head?.map fun stop =>
    (place.after.takeWhile isNamePart, stop.after)

theorem definition?_eq (line : Text) :
    definition? line =
      (Place.all line).findSome? fun place => (definitionStart.ends place).findSome? nameAt := by
  have hnames : (definitionName.starts Place.after line).map named =
      Hit.among nameAt (Place.all line) := by
    rw [Pattern.starts_eq, Hit.among, Hit.among, List.map_filterMap]
    congr 1
    funext place
    simp only [nameAt, Option.map_map]
    rfl
  rw [definition?, hnames, Pattern.sweep_among, Hit.among, List.head?_filterMap,
    List.map_findSome?]
  congr 1
  funext place
  rw [Function.comp_apply, Option.map_map]
  exact congrFun Option.map_id _

theorem definition?_margin (hm : blank margin = true) (l : Text) :
    definition? (margin ++ l) = definition? l := by
  obtain ⟨inside, hall, hin⟩ := Place.exists_all_append hm l
  have hinside : inside.findSome? (fun place => (definitionStart.ends place).findSome? nameAt) =
      none := by
    refine List.findSome?_eq_none_iff.mpr fun q hq => ?_
    simp only [definitionStart, Pattern.inOrder, List.foldr, Pattern.ends,
      Pattern.ends_boundary_of_inMargin (hin q hq), List.flatMap_nil, List.findSome?_nil]
  -- Behind the margin the start of a definition and its name are matched as before.
  have hname : ∀ place : Place, nameAt (place.precededBy margin) = nameAt place := by
    intro place
    have hfloats : definitionName.floats = true := by decide
    have hends := Pattern.head?_ends (Pattern.follows_precede hm hfloats)
      (Pattern.keeps_precede _) place
    simp only [Transfer.precede] at hends
    simp only [nameAt, hends, Option.map_map]
    rfl
  have hstart : ∀ place : Place,
      (definitionStart.ends (place.precededBy margin)).findSome? nameAt =
        (definitionStart.ends place).findSome? nameAt := by
    intro place
    have hfloats : definitionStart.floats = true := by decide
    have hends := Pattern.follows_precede hm hfloats place nameAt fun _ h => h.elim
    simpa only [Transfer.precede, hname] using hends
  simp only [definition?_eq, hall, List.findSome?_append, hinside, Option.none_or,
    List.findSome?_map, Function.comp_def, hstart]

theorem not_isNamePart_of_isBlank {c : Char} (h : isBlank c = true) : isNamePart c = false := by
  have hdollar : c ≠ '$' := by
    rintro rfl
    exact absurd h (by decide)
  simp [isNamePart, Text.isWord_of_isBlank h, hdollar]

theorem definitionName_endsBefore : Pattern.EndsBefore trail definitionName := by
  refine Pattern.endsBefore_seq (Pattern.endsBefore_seq (Pattern.endsBefore_seq_nothing
    (Pattern.endsBefore_seq_nothing (Pattern.endsBefore_one fun c hc => ?_))) _) _
  rw [beq_iff_eq.mp hc]
  decide

theorem definition?_append_blank (ht : blank trail = true) (l : Text) :
    definition? (l ++ trail) = (definition? l).map (Prod.map id (· ++ trail)) := by
  obtain ⟨extra, hall, hextra⟩ := Place.exists_all_extend ht l
  have hadded : ∀ q, q.InTrail trail → nameAt q = none := by
    intro q hq
    rw [nameAt, definitionName_endsBefore.ends_eq_nil hq]
    rfl
  have hnone : extra.findSome? (fun place => (definitionStart.ends place).findSome? nameAt) =
      none := by
    refine List.findSome?_eq_none_iff.mpr fun q hq =>
      List.findSome?_eq_none_iff.mpr fun stop hstop => hadded stop ?_
    exact Pattern.stays_extend definitionStart q stop (hextra q hq) hstop
  have hpart : ∀ c ∈ trail.head?, isNamePart c = false :=
    fun c hc => not_isNamePart_of_isBlank (Text.head_of_blank ht c hc)
  have hname : ∀ place : Place, nameAt (place.followedBy trail) =
      (nameAt place).map (Prod.map id (· ++ trail)) := by
    intro place
    have hends := Pattern.head?_ends (Pattern.follows_extend ht definitionName)
      definitionName_endsBefore.keeps place
    simp only [Transfer.extend] at hends
    simp only [nameAt, hends, Option.map_map]
    congr 1
    funext stop
    simp [Place.followedBy, Text.takeWhile_append_of_head hpart]
  have hstart : ∀ place : Place,
      (definitionStart.ends (place.followedBy trail)).findSome? nameAt =
        ((definitionStart.ends place).findSome? nameAt).map (Prod.map id (· ++ trail)) := by
    intro place
    have hends := Pattern.follows_extend ht definitionStart place nameAt hadded
    simp only [Transfer.extend, hname] at hends
    rw [hends, List.map_findSome?]
    rfl
  rw [definition?_eq, definition?_eq, hall, List.findSome?_append, hnone, Option.or_none,
    List.findSome?_map, List.map_findSome?]
  exact Pattern.findSome?_congr fun place _ => hstart place

/-- The names that a definition can give: not empty and without blanks. -/
structure IsName (name : Text) : Prop where
  ne_nil : name ≠ []
  solid : ∀ c ∈ name, isBlank c = false

theorem isNamePart_of_isNameStart {c : Char} (h : isNameStart c = true) : isNamePart c = true := by
  simp only [isNameStart, isNamePart, Text.isWord, Bool.or_eq_true, beq_iff_eq] at h ⊢
  rcases h with (h | rfl) | rfl
  · have hletter : c.isAlphanum = true := by rw [Char.isAlphanum, h, Bool.true_or]
    rw [if_pos (Text.toNat_lt_of_isAlphanum hletter), hletter]
    exact .inl (Bool.true_or _)
  · decide
  · decide

theorem isName_of_definition? {line name rest : Text} (h : definition? line = some (name, rest)) :
    IsName name := by
  rw [definition?_eq] at h
  obtain ⟨place, -, h⟩ := List.exists_of_findSome?_eq_some h
  obtain ⟨start, -, h⟩ := List.exists_of_findSome?_eq_some h
  obtain ⟨stop, hstop, h⟩ := Option.map_eq_some_iff.mp h
  have hmem : stop ∈ definitionName.ends start := List.mem_of_mem_head? hstop
  obtain ⟨middle, hname, -⟩ := List.mem_flatMap.mp hmem
  obtain ⟨second, hone, -⟩ := List.mem_flatMap.mp hname
  obtain ⟨c, after, hafter, hc, -⟩ := Pattern.of_mem_ends_one hone
  obtain ⟨rfl, -⟩ := Prod.mk.inj h
  constructor
  · rw [hafter, List.takeWhile_cons_of_pos (isNamePart_of_isNameStart hc)]
    exact List.cons_ne_nil _ _
  · intro d hd
    have hpart := List.mem_takeWhile_imp hd
    cases hb : isBlank d with
    | false => rfl
    | true => simp [not_isNamePart_of_isBlank hb] at hpart

-- ---------------------------------------------------------------------------
-- Calls
-- ---------------------------------------------------------------------------

variable {name : Text}

theorem continuesName_of_isBlank {c : Char} (h : isBlank c = true) : continuesName c = false := by
  have hother : c ≠ '_' ∧ c ≠ '$' ∧ c ≠ '.' :=
    Text.forall_blank (P := fun c => c ≠ '_' ∧ c ≠ '$' ∧ c ≠ '.') (by decide) h
  simp [continuesName, Text.isAlphanumeric_of_isBlank h, hother]

/-- No name starts with a blank. -/
theorem IsName.after?_blank (hn : IsName name) {c : Char} (hc : isBlank c = true) (t : Text) :
    Text.after? name (c :: t) = none := by
  cases name with
  | nil => exact absurd rfl hn.ne_nil
  | cons d name =>
    have hd : d ≠ c := by
      rintro rfl
      simp [hn.solid d List.mem_cons_self] at hc
    simp [Text.after?, hd]

theorem callsAfter_margin (hn : IsName name) (hm : blank margin = true) {before : Option Char}
    (hb : before.any continuesName = false) (l : Text) :
    callsAfter name 0 before (margin ++ l) = callsAfter name 0 none l := by
  induction margin generalizing before with
  | nil =>
    cases l with
    | nil => rfl
    | cons c l => simp [callsAfter, isCall, hb]
  | cons c margin ih =>
    obtain ⟨hc, hm⟩ := Text.blank_cons.mp hm
    rw [List.cons_append, callsAfter, hn.after?_blank hc]
    exact ih hm (continuesName_of_isBlank hc)

theorem calls_margin (hn : IsName name) (hm : blank margin = true) (l : Text) :
    calls name (margin ++ l) = calls name l := callsAfter_margin hn hm rfl l

theorem after?_append_blank (hs : ∀ c ∈ name, isBlank c = false) (ht : blank trail = true)
    (l : Text) : Text.after? name (l ++ trail) = (Text.after? name l).map (· ++ trail) := by
  induction name generalizing l with
  | nil => rfl
  | cons d name ih =>
    obtain ⟨hd, hs⟩ := List.forall_mem_cons.mp hs
    cases l with
    | nil =>
      cases trail with
      | nil => rfl
      | cons c trail =>
        have hne : d ≠ c := by
          rintro rfl
          simp [(Text.blank_cons.mp ht).1] at hd
        simp [Text.after?, hne]
    | cons c l =>
      simp only [List.cons_append, Text.after?, ih hs]
      split <;> rfl

theorem isCall_append_blank (before : Option Char) (ht : blank trail = true) (following : Text) :
    isCall before (following ++ trail) = isCall before following := by
  simp only [isCall]
  congr 1
  rw [List.dropWhile_append]
  split
  · next hall =>
    have hnone : (following.dropWhile fun c => c == ' ' || c == '\t') = [] :=
      List.isEmpty_iff.mp hall
    rw [hnone, List.head?_nil, beq_eq_false_iff_ne.mpr (Option.some_ne_none '(').symm,
      beq_eq_false_iff_ne]
    intro hhead
    have hmem := (List.dropWhile_suffix _).subset (List.mem_of_mem_head? hhead)
    have hparen := List.all_eq_true.mp ht _ hmem
    exact absurd hparen (by decide)
  · next hsome =>
    cases hd : following.dropWhile fun c => c == ' ' || c == '\t' with
    | nil => simp [hd] at hsome
    | cons c rest => rfl

theorem callsAfter_blank (hn : IsName name) (ht : blank trail = true) (skip : Nat)
    (before : Option Char) : callsAfter name skip before trail = false := by
  induction trail generalizing skip before with
  | nil => cases skip <;> rfl
  | cons c trail ih =>
    obtain ⟨hc, ht⟩ := Text.blank_cons.mp ht
    cases skip with
    | zero =>
      rw [callsAfter, hn.after?_blank hc]
      exact ih ht 0 _
    | succ skip => exact ih ht skip _

theorem calls_append_blank (hn : IsName name) (ht : blank trail = true) (l : Text) :
    calls name (l ++ trail) = calls name l := by
  -- What is to be skipped and the character before change along the line.
  suffices ∀ skip before, callsAfter name skip before (l ++ trail) =
      callsAfter name skip before l from this 0 none
  induction l with
  | nil =>
    intro skip before
    rw [List.nil_append, callsAfter_blank hn ht]
    cases skip <;> rfl
  | cons c l ih =>
    intro skip before
    cases skip with
    | zero =>
      have hafter := after?_append_blank hn.solid ht (c :: l)
      rw [List.cons_append] at hafter
      rw [List.cons_append, callsAfter, callsAfter, hafter]
      cases Text.after? name (c :: l) with
      | none => exact ih 0 _
      | some following =>
        simp only [Option.map_some, isCall_append_blank before ht, ih]
    | succ skip => exact ih skip _

end Outline

end Critique
