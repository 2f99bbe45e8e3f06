import Critique.Proofs.Pattern.Extension
import Critique.Proofs.Pattern.Transfer
import Critique.Proofs.Text.Blank

/-!
# Matches and the blanks around them

Blanks in front of a text or behind it are two ways in which its places go over to a longer text.
A pattern that does not ask where the text or a line starts follows its place when a margin is put
in front. Any pattern follows when blanks are put behind the text; the places among these are lost
to it, since nothing but blanks is ahead of them.
-/

namespace Critique

open Text (blank isBlank isWord)

variable {margin trail : Text}

-- ---------------------------------------------------------------------------
-- Blanks in front
-- ---------------------------------------------------------------------------

namespace Place

/-- The place, with a margin in front of the text. -/
def precededBy (margin : Text) (place : Place) : Place :=
  ⟨place.index + margin.length, place.before ++ margin.reverse, place.after⟩

/-- A place between blanks in front of a text: no word ends there and a blank is next. -/
structure InMargin (place : Place) : Prop where
  noWord : place.before.head?.any isWord = false
  blankNext : place.after.head?.any isBlank = true

theorem along_precededBy (margin : Text) (index : Nat) (before after : Text) :
    along (index + margin.length) (before ++ margin.reverse) after =
      (along index before after).map (precededBy margin) := by
  induction after generalizing index before with
  | nil => rfl
  | cons c after ih =>
    have hnext := ih (index + 1) (c :: before)
    rw [Nat.add_right_comm] at hnext
    simp only [along, List.map_cons, ← hnext]
    rfl

theorem exists_along_append (index : Nat) (before : Text) (hm : blank margin = true)
    (hb : before.head?.any isWord = false) (t : Text) :
    ∃ inside, along index before (margin ++ t) =
        inside ++ along (index + margin.length) (margin.reverse ++ before) t ∧
      ∀ q ∈ inside, q.InMargin := by
  induction margin generalizing index before with
  | nil => exact ⟨[], rfl, by simp⟩
  | cons c margin ih =>
    obtain ⟨hc, hm⟩ := Text.blank_cons.mp hm
    obtain ⟨inside, hi, hall⟩ := ih (index + 1) (c :: before) hm
      (by simp [Text.isWord_of_isBlank hc])
    refine ⟨⟨index, before, c :: (margin ++ t)⟩ :: inside, ?_, ?_⟩
    · simp [along, hi, Nat.add_right_comm, Nat.add_assoc]
    · exact List.forall_mem_cons.mpr ⟨⟨hb, by simp [hc]⟩, hall⟩

/-- The places between the blanks in front, then those of the text. -/
theorem exists_all_append (hm : blank margin = true) (t : Text) :
    ∃ inside, all (margin ++ t) = inside ++ (all t).map (precededBy margin) ∧
      ∀ q ∈ inside, q.InMargin := by
  obtain ⟨inside, hi, hall⟩ := exists_along_append 0 [] hm rfl t
  refine ⟨inside, ?_, hall⟩
  rw [all, hi, all, ← along_precededBy, Nat.zero_add, List.append_nil, List.nil_append]

end Place

/-- Every place goes along when a margin is put in front. -/
def Transfer.precede (margin : Text) : Transfer where
  carry := Place.precededBy margin
  added _ := False
  not_added _ h := h

namespace Pattern

/-- Whether the pattern asks nowhere for the start of the text or of a line. -/
def floats : Pattern → Bool
  | .here .wordBoundary => true
  | .here _ => false
  | .seq first second => first.floats && second.floats
  | .alt left right => left.floats && right.floats
  | .nothing | .one _ | .many _ => true

theorem next?_precededBy (cls : Char → Bool) (place : Place) :
    (place.precededBy margin).next? cls = (place.next? cls).map (Place.precededBy margin) := by
  obtain ⟨index, before, after⟩ := place
  cases after with
  | nil => rfl
  | cons c after =>
    simp only [Place.precededBy, Place.next?]
    split <;> simp [Place.precededBy, Nat.add_right_comm]

theorem runEnds_precededBy (margin : Text) (cls : Char → Bool) (index : Nat) (before after : Text) :
    runEnds cls (index + margin.length) (before ++ margin.reverse) after =
      (runEnds cls index before after).map (Place.precededBy margin) := by
  induction after generalizing index before with
  | nil => rfl
  | cons c after ih =>
    have hnext := ih (index + 1) (c :: before)
    rw [Nat.add_right_comm] at hnext
    simp only [runEnds, List.map_append]
    rw [← List.cons_append, hnext]
    split <;> rfl

theorem wordBoundary_precededBy (hm : blank margin = true) (place : Place) :
    Anchor.wordBoundary.holds (place.precededBy margin) = Anchor.wordBoundary.holds place := by
  have hlast : margin.getLast?.any isWord = false := by
    cases hl : margin.getLast? with
    | none => rfl
    | some c =>
      have hc := List.all_eq_true.mp hm c (List.mem_of_getLast? hl)
      simp [Text.isWord_of_isBlank hc]
  obtain ⟨index, before, after⟩ := place
  cases before with
  | nil => simp [Anchor.holds, Place.precededBy, hlast]
  | cons c before => rfl

theorem follows_precede (hm : blank margin = true) {pattern : Pattern}
    (h : pattern.floats = true) : Follows (.precede margin) pattern := by
  induction pattern with
  | nothing => exact follows_nothing
  | one cls =>
    intro α place find _
    simp only [ends, Transfer.precede, next?_precededBy, Option.toList_map, List.findSome?_map]
    rfl
  | many cls =>
    intro α place find _
    simp only [ends, Transfer.precede]
    exact (congrArg _ (runEnds_precededBy margin cls _ _ _)).trans List.findSome?_map
  | here anchor =>
    cases anchor with
    | wordBoundary => exact follows_here (wordBoundary_precededBy hm)
    | textStart | lineStart => cases h
  | seq first second ihf ihs =>
    obtain ⟨hf, hs⟩ := Bool.and_eq_true _ _ |>.mp h
    exact follows_seq (ihf hf) (ihs hs) (.inl fun _ _ hq _ => hq)
  | alt left right ihl ihr =>
    obtain ⟨hl, hr⟩ := Bool.and_eq_true _ _ |>.mp h
    exact follows_alt (ihl hl) (ihr hr)

theorem keeps_precede (pattern : Pattern) : Keeps (.precede margin) pattern := fun _ _ _ _ h => h

/-- A margin makes no difference to a pattern that nowhere starts with a blank. -/
theorem occursIn_precede (hm : blank margin = true) {pattern : Pattern}
    (hfloats : pattern.floats = true)
    (hskips : ∀ q : Place, q.InMargin → pattern.ends q = []) (t : Text) :
    pattern.occursIn (margin ++ t) = pattern.occursIn t := by
  obtain ⟨inside, hall, hin⟩ := Place.exists_all_append hm t
  refine occursIn_eq (follows_precede hm hfloats) (keeps_precede pattern) ?_ ?_
  · intro place hp
    rw [hall]
    exact List.mem_append_right _ (List.mem_map_of_mem hp)
  · intro q hq
    rw [hall] at hq
    rcases List.mem_append.mp hq with hq | hq
    · exact .inr (hskips q (hin q hq))
    · exact .inl (List.mem_map.mp hq)

theorem ends_boundary_of_inMargin {q : Place} (h : q.InMargin) : boundary.ends q = [] := by
  obtain ⟨index, before, after⟩ := q
  have hnext := h.blankNext
  cases after with
  | nil => cases hnext
  | cons c after =>
    have hc : isWord c = false := Text.isWord_of_isBlank (by simpa using hnext)
    have hb := h.noWord
    simp only at hb
    simp [boundary, ends, Anchor.holds, hb, hc]

-- ---------------------------------------------------------------------------
-- Patterns at the start of a line
-- ---------------------------------------------------------------------------

/-- Whether the pattern matches from its start on is all that counts. -/
theorem occursIn_textStart (pattern : Pattern) (t : Text) :
    (seq (here .textStart) pattern).occursIn t = !(pattern.ends ⟨0, [], t⟩).isEmpty := by
  have hlater : ∀ index c before after, ∀ q ∈ Place.along index (c :: before) after,
      (seq (here .textStart) pattern).ends q = [] := by
    intro index c before after
    induction after generalizing index c before with
    | nil => simp [Place.along, ends, Anchor.holds]
    | cons d after ih =>
      exact List.forall_mem_cons.mpr ⟨by simp [ends, Anchor.holds], ih _ d _⟩
  have hstart : (seq (here .textStart) pattern).ends ⟨0, [], t⟩ = pattern.ends ⟨0, [], t⟩ := by
    simp [ends, Anchor.holds]
  rw [Bool.eq_iff_iff, occursIn_iff]
  cases t with
  | nil => simp [Place.all, Place.along, hstart]
  | cons c t =>
    simp only [Place.all, Place.along, List.mem_cons, exists_eq_or_imp, hstart]
    constructor
    · rintro (h | ⟨q, hq, hne⟩)
      · simpa using h
      · exact absurd (hlater _ _ _ _ q hq) hne
    · exact fun h => .inl (by simpa using h)

theorem exists_runEnds_append (index : Nat) (before : Text) (hm : blank margin = true) (t : Text) :
    ∃ inside, runEnds isBlank index before (margin ++ t) =
        runEnds isBlank (index + margin.length) (margin.reverse ++ before) t ++ inside ∧
      ∀ q ∈ inside, q.after.head?.any isBlank = true := by
  induction margin generalizing index before with
  | nil => exact ⟨[], by simp, by simp⟩
  | cons c margin ih =>
    obtain ⟨hc, hm⟩ := Text.blank_cons.mp hm
    obtain ⟨inside, hi, hall⟩ := ih (index + 1) (c :: before) hm
    refine ⟨inside ++ [⟨index, before, c :: (margin ++ t)⟩], ?_, ?_⟩
    · simp [runEnds, hc, hi, Nat.add_right_comm, Nat.add_assoc]
    · intro q hq
      rcases List.mem_append.mp hq with hq | hq
      · exact hall q hq
      · rw [List.mem_singleton.mp hq]
        simp [hc]

/-- A pattern behind the blanks that start a line finds the same behind more of them. -/
theorem occursIn_afterGap_precede (hm : blank margin = true) {pattern : Pattern}
    (hfloats : pattern.floats = true)
    (hskips : ∀ q : Place, q.after.head?.any isBlank = true → pattern.ends q = []) (t : Text) :
    (seq (here .textStart) (seq gap pattern)).occursIn (margin ++ t) =
      (seq (here .textStart) (seq gap pattern)).occursIn t := by
  obtain ⟨inside, hi, hall⟩ := exists_runEnds_append 0 [] hm t
  have hinside : inside.flatMap pattern.ends = [] :=
    List.flatMap_eq_nil_iff.mpr fun q hq => hskips q (hall q hq)
  have hshift := runEnds_precededBy margin isBlank 0 [] t
  rw [List.nil_append] at hshift
  rw [List.append_nil, hshift] at hi
  have hends : (seq gap pattern).ends ⟨0, [], margin ++ t⟩ =
      ((runEnds isBlank 0 [] t).map (Place.precededBy margin)).flatMap pattern.ends := by
    simp only [gap, ends, hi, List.flatMap_append, hinside, List.append_nil]
  rw [occursIn_textStart, occursIn_textStart, hends]
  congr 1
  rw [Bool.eq_iff_iff, List.isEmpty_iff, List.isEmpty_iff]
  simp only [gap, ends, List.flatMap_eq_nil_iff, List.forall_mem_map]
  exact forall₂_congr fun q _ =>
    ends_eq_nil_iff (follows_precede hm hfloats) (keeps_precede pattern) q

end Pattern

-- ---------------------------------------------------------------------------
-- Blanks behind
-- ---------------------------------------------------------------------------

/-- A place among blanks behind a text: it stands behind one, and only blanks are ahead of it. -/
structure Place.InTrail (trail : Text) (place : Place) : Prop where
  short : place.after.length < trail.length
  blankBefore : place.before.head?.any isBlank = true
  blankAfter : blank place.after = true

theorem Place.not_inTrail_followedBy (place : Place) :
    ¬ (place.followedBy trail).InTrail trail := by
  intro h
  have hlength := h.short
  simp only [followedBy, List.length_append] at hlength
  omega

/-- All places go along when blanks are put behind the text; those among the blanks are added. -/
def Transfer.extend (trail : Text) : Transfer where
  carry := Place.followedBy trail
  added := Place.InTrail trail
  not_added := Place.not_inTrail_followedBy

namespace Place

variable {index : Nat} {before after : Text} {c : Char}

/-- Behind the first of the blanks. -/
theorem inTrail_first (ht : blank (c :: trail) = true) :
    InTrail (c :: trail) ⟨index + 1, c :: before, trail⟩ where
  short := Nat.lt_succ_self _
  blankBefore := by simpa using (Text.blank_cons.mp ht).1
  blankAfter := (Text.blank_cons.mp ht).2

theorem InTrail.step (h : InTrail trail ⟨index, before, c :: after⟩) :
    InTrail trail ⟨index + 1, c :: before, after⟩ where
  short := Nat.lt_of_succ_lt h.short
  blankBefore := by simpa using (Text.blank_cons.mp h.blankAfter).1
  blankAfter := (Text.blank_cons.mp h.blankAfter).2

theorem inTrail_of_mem_along (h : InTrail trail ⟨index, before, after⟩) :
    ∀ q ∈ along index before after, q.InTrail trail := by
  induction after generalizing index before with
  | nil => simpa [along] using h
  | cons c after ih => exact List.forall_mem_cons.mpr ⟨h, ih h.step⟩

/-- The places of the text, then those that the blanks behind it add. -/
theorem exists_all_extend (ht : blank trail = true) (t : Text) :
    ∃ extra, all (t ++ trail) = (all t).map (followedBy trail) ++ extra ∧
      ∀ q ∈ extra, q.InTrail trail := by
  suffices ∀ index before, ∃ extra,
      along index before (t ++ trail) = (along index before t).map (followedBy trail) ++ extra ∧
        ∀ q ∈ extra, q.InTrail trail from this 0 []
  induction t with
  | nil =>
    intro index before
    cases trail with
    | nil => exact ⟨[], rfl, by simp⟩
    | cons c trail =>
      exact ⟨along (index + 1) (c :: before) trail, rfl, inTrail_of_mem_along (inTrail_first ht)⟩
  | cons c t ih =>
    intro index before
    obtain ⟨extra, he, hextra⟩ := ih (index + 1) (c :: before)
    exact ⟨extra, by simp [along, he, followedBy], hextra⟩

end Place

namespace Pattern

theorem inTrail_of_mem_runEnds {cls : Char → Bool} {index : Nat} {before after : Text}
    {stop : Place} (h : Place.InTrail trail ⟨index, before, after⟩)
    (hstop : stop ∈ runEnds cls index before after) : stop.InTrail trail := by
  induction after generalizing index before with
  | nil =>
    rw [List.mem_singleton.mp hstop]
    exact h
  | cons c after ih =>
    rcases List.mem_append.mp hstop with hstop | hstop
    · split at hstop
      · exact ih h.step hstop
      · cases hstop
    · rw [List.mem_singleton.mp hstop]
      exact h

theorem stays_extend (pattern : Pattern) : Stays (.extend trail) pattern := by
  induction pattern with
  | nothing =>
    intro q stop hq hstop
    rw [List.mem_singleton.mp hstop]
    exact hq
  | one cls =>
    rintro ⟨index, before, after⟩ stop hq hstop
    obtain ⟨c, rest, rfl, -, rfl⟩ := of_mem_ends_one hstop
    exact Place.InTrail.step hq
  | many cls => exact fun _ _ => inTrail_of_mem_runEnds
  | here anchor =>
    intro q stop hq hstop
    simp only [ends] at hstop
    split at hstop
    · rw [List.mem_singleton.mp hstop]
      exact hq
    · cases hstop
  | seq first second ihf ihs =>
    intro q stop hq hstop
    obtain ⟨middle, hf, hs⟩ := List.mem_flatMap.mp hstop
    exact ihs middle stop (ihf q middle hq hf) hs
  | alt left right ihl ihr =>
    intro q stop hq hstop
    rcases List.mem_append.mp hstop with h | h
    · exact ihl q stop hq h
    · exact ihr q stop hq h

theorem findSome?_runEnds_extend {α : Type} {find : Place → Option α} (cls : Char → Bool)
    (ht : blank trail = true) (hfind : ∀ q, q.InTrail trail → find q = none)
    (index : Nat) (before after : Text) :
    (runEnds cls index before (after ++ trail)).findSome? find =
      (runEnds cls index before after).findSome? fun stop => find (stop.followedBy trail) := by
  induction after generalizing index before with
  | nil =>
    cases trail with
    | nil => rfl
    | cons c trail =>
      have hlost : (if cls c then runEnds cls (index + 1) (c :: before) trail else []).findSome?
          find = none := by
        refine List.findSome?_eq_none_iff.mpr fun stop hstop => ?_
        split at hstop
        · exact hfind stop (inTrail_of_mem_runEnds (Place.inTrail_first ht) hstop)
        · cases hstop
      simp only [List.nil_append, runEnds, List.findSome?_append, hlost, Option.none_or]
      rfl
  | cons c after ih =>
    simp only [List.cons_append, runEnds, List.findSome?_append]
    congr 1
    split
    · exact ih _ _
    · rfl

/-- What a pattern finds at the old places it finds there still, whatever it asks for. -/
theorem follows_extend (ht : blank trail = true) (pattern : Pattern) :
    Follows (.extend trail) pattern := by
  have hhead : trail.head?.any isWord = false := by
    cases trail with
    | nil => rfl
    | cons c trail => simpa using Text.isWord_of_isBlank (Text.blank_cons.mp ht).1
  induction pattern with
  | nothing => exact follows_nothing
  | one cls =>
    rintro α ⟨index, before, after⟩ find hfind
    cases after with
    | nil =>
      refine List.findSome?_eq_none_iff.mpr fun stop hstop => hfind stop ?_
      obtain ⟨c, rest, ha, -, rfl⟩ := of_mem_ends_one hstop
      obtain rfl : trail = c :: rest := ha
      exact Place.inTrail_first ht
    | cons c after =>
      by_cases hc : cls c <;> simp [ends, Transfer.extend, Place.followedBy, Place.next?, hc]
  | many cls =>
    intro α place find hfind
    exact findSome?_runEnds_extend cls ht hfind _ _ _
  | here anchor => exact follows_here fun place => anchor.holds_followedBy place hhead
  | seq first second ihf ihs => exact follows_seq ihf ihs (.inl (stays_extend second))
  | alt left right ihl ihr => exact follows_alt ihl ihr

/-- No match ends among the blanks behind the text. -/
def EndsBefore (trail : Text) (pattern : Pattern) : Prop :=
  ∀ q, ∀ stop ∈ pattern.ends q, ¬ stop.InTrail trail

theorem EndsBefore.keeps {pattern : Pattern} (h : EndsBefore trail pattern) :
    Keeps (.extend trail) pattern := fun q stop _ hstop => h q stop hstop

theorem endsBefore_seq {second : Pattern} (h : EndsBefore trail second) (first : Pattern) :
    EndsBefore trail (seq first second) := by
  intro q stop hstop
  obtain ⟨middle, -, hs⟩ := List.mem_flatMap.mp hstop
  exact h middle stop hs

theorem endsBefore_seq_nothing {first : Pattern} (h : EndsBefore trail first) :
    EndsBefore trail (seq first nothing) := by
  intro q stop hstop
  obtain ⟨middle, hf, hs⟩ := List.mem_flatMap.mp hstop
  rw [List.mem_singleton.mp hs]
  exact h q middle hf

theorem endsBefore_alt {left right : Pattern} (hl : EndsBefore trail left)
    (hr : EndsBefore trail right) : EndsBefore trail (alt left right) := by
  intro q stop hstop
  rcases List.mem_append.mp hstop with h | h
  · exact hl q stop h
  · exact hr q stop h

/-- No match starts among the blanks behind the text either. -/
theorem EndsBefore.ends_eq_nil {pattern : Pattern} (h : EndsBefore trail pattern) {q : Place}
    (hq : q.InTrail trail) : pattern.ends q = [] :=
  List.eq_nil_iff_forall_not_mem.mpr fun stop hstop =>
    h q stop hstop (stays_extend pattern q stop hq hstop)

theorem occursIn_extend (ht : blank trail = true) {pattern : Pattern}
    (h : EndsBefore trail pattern) (t : Text) :
    pattern.occursIn (t ++ trail) = pattern.occursIn t := by
  obtain ⟨extra, hall, hextra⟩ := Place.exists_all_extend ht t
  refine occursIn_eq (follows_extend ht pattern) h.keeps ?_ ?_
  · intro place hp
    rw [hall]
    exact List.mem_append_left _ (List.mem_map_of_mem hp)
  · intro q hq
    rw [hall] at hq
    rcases List.mem_append.mp hq with hq | hq
    · exact .inl (List.mem_map.mp hq)
    · exact .inr (h.ends_eq_nil (hextra q hq))

theorem endsBefore_boundary : EndsBefore trail boundary := by
  rintro ⟨index, before, after⟩ stop hstop ⟨-, hbefore, hafter⟩
  have hholds : Anchor.wordBoundary.holds ⟨index, before, after⟩ = true ∧
      stop = ⟨index, before, after⟩ := by
    simpa [boundary, ends] using hstop
  rw [hholds.2] at hbefore hafter
  have hb : before.head?.any isWord = false := by
    cases before with
    | nil => rfl
    | cons c before => simpa using Text.isWord_of_isBlank (by simpa using hbefore)
  have ha : after.head?.any isWord = false := by
    cases after with
    | nil => rfl
    | cons c after =>
      simpa using Text.isWord_of_isBlank (Text.blank_cons.mp hafter).1
  simp [Anchor.holds, hb, ha] at hholds

theorem endsBefore_one {cls : Char → Bool} (h : ∀ c, cls c = true → isBlank c = false) :
    EndsBefore trail (one cls) := by
  rintro q stop hstop ⟨-, hbefore, -⟩
  obtain ⟨c, after, -, hc, rfl⟩ := of_mem_ends_one hstop
  simp [h c hc] at hbefore

end Pattern

end Critique
