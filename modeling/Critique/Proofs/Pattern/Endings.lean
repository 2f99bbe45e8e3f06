import Critique.Proofs.Pattern.Count
import Critique.Proofs.Pattern.Transfer
import Critique.Proofs.Text.Blank
import Critique.Proofs.Text.Endings
import Mathlib.Data.List.Basic

/-!
# Matches and the ends of lines

When a carriage return is put in front of every line feed, the places of a text go over to the new
one, and a place is added between the two characters of each line end. `mayEnd` tells from a pattern
alone whether matches can start or end there, and `crosses` whether it takes both characters where
it took a line feed. `count_crlf`: such a pattern is counted as often as before.
-/

namespace Critique

open Text (crlf isBlank isWord)

/-- The characters before a place, last first, with the line ends they get. -/
def Text.crlfBack (before : Text) : Text :=
  before.flatMap fun c => if c = '\n' then ['\n', '\r'] else [c]

namespace Place

/-- The place, with a carriage return in front of every line feed of the text. -/
def crlf (place : Place) : Place :=
  ⟨place.index + place.before.count '\n', place.before.crlfBack, place.after.crlf⟩

/-- Whether the place is inside a line end. -/
def between (place : Place) : Bool :=
  place.before.head? == some '\r' && place.after.head? == some '\n'

variable {index : Nat} {before after : Text} {c : Char}

theorem between_iff {place : Place} : place.between = true ↔
    place.before.head? = some '\r' ∧ place.after.head? = some '\n' := by
  simp [between]

theorem crlf_feed : crlf ⟨index + 1, '\n' :: before, after⟩ =
    ⟨(crlf ⟨index, before, after⟩).index + 2,
      '\n' :: '\r' :: (crlf ⟨index, before, after⟩).before, after.crlf⟩ := by
  simp only [crlf, Text.crlfBack, List.count_cons_self, List.flatMap_cons, if_true]
  congr 1
  omega

theorem crlf_cons (hc : c ≠ '\n') : crlf ⟨index + 1, c :: before, after⟩ =
    ⟨(crlf ⟨index, before, after⟩).index + 1, c :: (crlf ⟨index, before, after⟩).before,
      after.crlf⟩ := by
  simp only [crlf, Text.crlfBack, List.count_cons_of_ne hc, List.flatMap_cons, if_neg hc]
  congr 1
  omega

theorem between_crlf (place : Place) : place.crlf.between = false := by
  have hafter : place.after.crlf.head? ≠ some '\n' := by
    cases place.after with
    | nil => simp
    | cons c after =>
      by_cases hc : c = '\n'
      · simp [hc]
      · simp [Text.crlf_cons hc, hc]
  simp [between, crlf, hafter]

end Place

/-- A carriage return is put in front of every line feed. -/
def Transfer.crlf : Transfer where
  carry := Place.crlf
  added q := q.between = true
  not_added place h := by simp [Place.between_crlf] at h

namespace Pattern

-- ---------------------------------------------------------------------------
-- Where matches can start and end
-- ---------------------------------------------------------------------------

/-- Whether a match may start inside a line end, or not, and end inside one, or not. -/
def mayEnd : Pattern → (start stop : Bool) → Bool
  | .nothing, start, stop => start == stop
  | .here .wordBoundary, start, stop => !start && !stop
  | .here _, start, stop => start == stop
  | .one cls, start, stop => if start then !stop && cls '\n' else !stop || cls '\r'
  | .many cls, start, stop =>
    start == stop || if start then cls '\n' else cls '\r'
  | .seq first second, start, stop =>
    first.mayEnd start true && second.mayEnd true stop ||
      first.mayEnd start false && second.mayEnd false stop
  | .alt left right, start, stop => left.mayEnd start stop || right.mayEnd start stop

theorem mayEnd_of_mem_runEnds {cls : Char → Bool} {place stop : Place}
    (h : stop ∈ runEnds cls place.index place.before place.after) :
    stop = place ∨ place.after.head?.any cls = true ∧ stop.before.head?.any cls = true := by
  obtain ⟨index, before, after⟩ := place
  induction after generalizing index before with
  | nil => exact .inl (List.mem_singleton.mp h)
  | cons c after ih =>
    rcases List.mem_append.mp h with h | h
    · split at h
      · next hc =>
        refine .inr ⟨by simpa using hc, ?_⟩
        rcases ih _ _ h with rfl | ⟨-, hlast⟩
        · simpa using hc
        · exact hlast
      · cases h
    · exact .inl (List.mem_singleton.mp h)

/-- A match that may not end inside a line end, say, does not. -/
theorem mayEnd_of_mem {pattern : Pattern} {place stop : Place} (h : stop ∈ pattern.ends place) :
    pattern.mayEnd place.between stop.between = true := by
  induction pattern generalizing place stop with
  | nothing => simp [mayEnd, List.mem_singleton.mp h]
  | one cls =>
    obtain ⟨c, after, hafter, hc, rfl⟩ := of_mem_ends_one h
    cases hstart : place.between with
    | true =>
      have hfeed := (Place.between_iff.mp hstart).2
      rw [hafter, List.head?_cons, Option.some.injEq] at hfeed
      subst hfeed
      simp [mayEnd, Place.between, hc]
    | false =>
      by_cases hreturn : c = '\r'
      · subst hreturn
        simp [mayEnd, hc]
      · simp [mayEnd, Place.between, hreturn]
  | many cls =>
    rcases mayEnd_of_mem_runEnds h with rfl | ⟨hfirst, hlast⟩
    · simp [mayEnd]
    · cases hstart : place.between with
      | true =>
        rw [(Place.between_iff.mp hstart).2] at hfirst
        simpa [mayEnd] using .inr hfirst
      | false =>
        cases hstop : stop.between with
        | false => rfl
        | true =>
          rw [(Place.between_iff.mp hstop).1] at hlast
          simpa [mayEnd] using hlast
  | here anchor =>
    simp only [ends] at h
    split at h
    · next hholds =>
      rw [List.mem_singleton.mp h]
      cases anchor with
      | textStart | lineStart => simp [mayEnd]
      | wordBoundary =>
        cases hstart : place.between with
        | false => rfl
        | true =>
          obtain ⟨hbefore, hafter⟩ := Place.between_iff.mp hstart
          rw [Anchor.holds, hbefore, hafter] at hholds
          exact absurd hholds (by decide)
    · cases h
  | seq first second ihf ihs =>
    obtain ⟨middle, hf, hs⟩ := List.mem_flatMap.mp h
    have hfirst := ihf hf
    have hsecond := ihs hs
    cases hm : middle.between <;> simp_all [mayEnd]
  | alt left right ihl ihr =>
    rcases List.mem_append.mp h with h | h
    · simp [mayEnd, ihl h]
    · simp [mayEnd, ihr h]

-- ---------------------------------------------------------------------------
-- Patterns that cross line ends
-- ---------------------------------------------------------------------------

/-- Whether the two patterns are a run of a class with both characters of a line end. -/
def runsOverEnds : (first second : Pattern) → Bool
  | .one cls, .many more => cls '\n' && cls '\r' && more '\n' && more '\r'
  | _, _ => false

/-- Whether the pattern takes both characters of a line end where it took a line feed alone, and
nothing depends on a match of a part that ends between them. -/
def crosses : Pattern → Bool
  | .nothing | .here _ => true
  | .one cls => !cls '\n'
  | .many cls => !cls '\n' || cls '\r'
  | .seq first second =>
    runsOverEnds first second ||
      first.crosses && second.crosses && (!second.mayEnd true false || !first.mayEnd false true)
  | .alt left right => left.crosses && right.crosses

theorem stays_crlf {pattern : Pattern} (h : pattern.mayEnd true false = false) :
    Stays .crlf pattern := by
  intro q stop hq hstop
  have hmay := mayEnd_of_mem hstop
  rw [show q.between = true from hq] at hmay
  cases hb : stop.between with
  | true => exact hb
  | false => simp [hb, h] at hmay

theorem keeps_crlf {pattern : Pattern} (h : pattern.mayEnd false true = false) :
    Keeps .crlf pattern := by
  intro q stop hq hstop hb
  have hmay := mayEnd_of_mem hstop
  rw [show stop.between = true from hb, Bool.eq_false_iff.mpr hq, h] at hmay
  cases hmay

/-- A pattern for which no match starts inside a line end. -/
theorem ends_eq_nil_of_between {pattern : Pattern} (hin : pattern.mayEnd true true = false)
    (hout : pattern.mayEnd true false = false) {q : Place} (hq : q.between = true) :
    pattern.ends q = [] := by
  refine List.eq_nil_iff_forall_not_mem.mpr fun stop hstop => ?_
  have hmay := mayEnd_of_mem hstop
  rw [hq] at hmay
  cases hb : stop.between <;> simp [hb, hin, hout] at hmay

theorem anchor_holds_crlf (anchor : Anchor) (place : Place) :
    anchor.holds place.crlf = anchor.holds place := by
  have hbefore : place.before.crlfBack.head? = place.before.head? := by
    cases place.before with
    | nil => rfl
    | cons c before => by_cases hc : c = '\n' <;> simp [Text.crlfBack, hc]
  have hafter : place.after.crlf.head?.any isWord = place.after.head?.any isWord := by
    cases place.after with
    | nil => rfl
    | cons c after =>
      by_cases hc : c = '\n'
      · subst hc
        exact (by decide : isWord '\r' = isWord '\n')
      · simp [Text.crlf_cons hc]
  cases anchor with
  | textStart =>
    rw [Anchor.holds, Anchor.holds, Bool.eq_iff_iff, List.isEmpty_iff, List.isEmpty_iff,
      ← List.head?_eq_none_iff, Place.crlf, hbefore, List.head?_eq_none_iff]
  | lineStart => simp only [Anchor.holds, Place.crlf, hbefore]
  | wordBoundary => simp only [Anchor.holds, Place.crlf, hbefore, hafter]

theorem findSome?_runEnds_crlf {α : Type} {find : Place → Option α} (cls : Char → Bool)
    (h : cls '\n' = true → cls '\r' = true)
    (hfind : ∀ q : Place, q.between = true → find q = none) (place : Place) :
    (runEnds cls place.crlf.index place.crlf.before place.crlf.after).findSome? find =
      (runEnds cls place.index place.before place.after).findSome? fun stop => find stop.crlf := by
  obtain ⟨index, before, after⟩ := place
  induction after generalizing index before with
  | nil => rfl
  | cons c after ih =>
    have hnext := ih (index + 1) (c :: before)
    by_cases hc : c = '\n'
    · subst hc
      rw [Place.crlf_feed] at hnext
      have hinside : find ⟨(Place.crlf ⟨index, before, after⟩).index + 1,
          '\r' :: (Place.crlf ⟨index, before, after⟩).before, '\n' :: crlf after⟩ = none :=
        hfind _ rfl
      simp only [Place.crlf] at hnext hinside ⊢
      simp only [Text.crlf_feed, runEnds, List.findSome?_append]
      congr 1
      cases hfeed : cls '\n' with
      | true => simp [h hfeed, hnext, hinside]
      | false => cases cls '\r' <;> simp [hinside]
    · rw [Place.crlf_cons hc] at hnext
      simp only [Place.crlf] at hnext ⊢
      simp only [Text.crlf_cons hc, runEnds, List.findSome?_append, List.findSome?_singleton]
      congr 1
      split
      · exact hnext
      · rfl

/-- A run that starts with a line end starts with both of its characters. -/
theorem follows_run {cls more : Char → Bool} (hcls : cls '\n' = true ∧ cls '\r' = true)
    (hmore : more '\n' = true ∧ more '\r' = true) : Follows .crlf (seq (one cls) (many more)) := by
  rintro α ⟨index, before, after⟩ find hfind
  cases after with
  | nil => rfl
  | cons c after =>
    have hrest := findSome?_runEnds_crlf more (fun _ => hmore.2) hfind
      ⟨index + 1, c :: before, after⟩
    by_cases hc : c = '\n'
    · subst hc
      have hinside : find ⟨index + before.count '\n' + 1, '\r' :: before.crlfBack,
          '\n' :: crlf after⟩ = none := hfind _ rfl
      rw [Place.crlf_feed] at hrest
      simp only [Place.crlf] at hrest
      simp only [ends, Transfer.crlf, Place.crlf, Place.next?, Text.crlf_feed, hcls, if_true,
        Option.toList_some, List.flatMap_singleton, runEnds, hmore, List.findSome?_append, hrest,
        List.findSome?_singleton, hinside, Option.or_none]
    · rw [Place.crlf_cons hc] at hrest
      simp only [Place.crlf] at hrest
      cases hfirst : cls c with
      | false => simp [ends, Transfer.crlf, Place.crlf, Place.next?, Text.crlf_cons hc, hfirst]
      | true =>
        simp only [ends, Transfer.crlf, Place.crlf, Place.next?, Text.crlf_cons hc, hfirst, if_true,
          Option.toList_some, List.flatMap_singleton, hrest]

theorem follows_crlf {pattern : Pattern} (h : pattern.crosses = true) :
    Follows .crlf pattern := by
  induction pattern with
  | nothing => exact follows_nothing
  | one cls =>
    rintro α ⟨index, before, after⟩ find hfind
    cases after with
    | nil => rfl
    | cons c after =>
      by_cases hc : c = '\n'
      · -- The line feed is not of the class, and behind the carriage return nothing is found.
        subst hc
        have hfeed : cls '\n' = false := by simpa [crosses] using h
        have hinside : find ⟨index + before.count '\n' + 1, '\r' :: before.crlfBack,
            '\n' :: crlf after⟩ = none := hfind _ rfl
        cases hreturn : cls '\r' <;>
          simp [ends, Transfer.crlf, Place.crlf, Place.next?, hfeed, hreturn, hinside]
      · cases hcls : cls c <;>
          simp [ends, Transfer.crlf, Place.crlf, Place.next?, Text.crlf_cons hc, hcls,
            List.count_cons_of_ne hc, Text.crlfBack, hc, Nat.add_right_comm]
  | many cls =>
    intro α place find hfind
    refine findSome?_runEnds_crlf cls (fun hfeed => ?_) hfind place
    simpa [crosses, hfeed] using h
  | here anchor => exact follows_here (anchor_holds_crlf anchor)
  | seq first second ihf ihs =>
    rcases Bool.or_eq_true _ _ |>.mp h with hrun | h
    · unfold runsOverEnds at hrun
      split at hrun
      · simp only [Bool.and_eq_true] at hrun
        exact follows_run hrun.1.1 ⟨hrun.1.2, hrun.2⟩
      · cases hrun
    · simp only [Bool.and_eq_true] at h
      obtain ⟨⟨hf, hs⟩, hends⟩ := h
      refine follows_seq (ihf hf) (ihs hs) ?_
      rcases Bool.or_eq_true _ _ |>.mp hends with hstays | hkeeps
      · exact .inl (stays_crlf (by simpa using hstays))
      · exact .inr (keeps_crlf (by simpa using hkeeps))
  | alt left right ihl ihr =>
    obtain ⟨hl, hr⟩ := Bool.and_eq_true _ _ |>.mp h
    exact follows_alt (ihl hl) (ihr hr)

end Pattern

-- ---------------------------------------------------------------------------
-- Counts
-- ---------------------------------------------------------------------------

namespace Place

theorem filterMap_along_crlf {β : Type} {f : Place → Option β}
    (hf : ∀ q : Place, q.between = true → f q = none) (place : Place) :
    (along place.crlf.index place.crlf.before place.crlf.after).filterMap f =
      (along place.index place.before place.after).filterMap fun q => f q.crlf := by
  obtain ⟨index, before, after⟩ := place
  induction after generalizing index before with
  | nil => rfl
  | cons c after ih =>
    have hnext := ih (index + 1) (c :: before)
    by_cases hc : c = '\n'
    · subst hc
      rw [crlf_feed] at hnext
      have hinside : f ⟨index + before.count '\n' + 1, '\r' :: before.crlfBack,
          '\n' :: Text.crlf after⟩ = none := hf _ rfl
      simp only [crlf] at hnext ⊢
      simp only [Text.crlf_feed, along, List.filterMap_cons, hinside, hnext]
    · rw [crlf_cons hc] at hnext
      simp only [crlf] at hnext ⊢
      simp only [Text.crlf_cons hc, along, List.filterMap_cons, hnext]

theorem filterMap_all_crlf {β : Type} {f : Place → Option β}
    (hf : ∀ q : Place, q.between = true → f q = none) (t : Text) :
    (all t.crlf).filterMap f = (all t).filterMap fun q => f q.crlf :=
  filterMap_along_crlf hf ⟨0, [], t⟩

/-- The index in the new text of the place at an index of the old one. -/
def crlfIndex (t : Text) (index : Nat) : Nat := index + (t.take index).count '\n'

theorem crlfIndex_strictMono (t : Text) : StrictMono (crlfIndex t) := by
  refine strictMono_nat_of_lt_succ fun index => ?_
  have hle : (t.take index).count '\n' ≤ (t.take (index + 1)).count '\n' :=
    (List.take_sublist_take_left (Nat.le_succ index)).count_le '\n'
  simp only [crlfIndex]
  omega

theorem IsOf.index_crlf {t : Text} {place : Place} (h : place.IsOf t) :
    place.crlf.index = crlfIndex t place.index := by
  rw [crlf, crlfIndex, ← h.before_eq, List.count_reverse]

end Place

namespace Pattern

/-- Whether a pattern cannot tell the two kinds of line ends apart: it crosses them, and its
matches neither start nor end inside one. -/
def ignoresEnds (pattern : Pattern) : Bool :=
  pattern.crosses && !pattern.mayEnd false true && !pattern.mayEnd true true &&
    !pattern.mayEnd true false

theorem spanAt_crlf {pattern : Pattern} (hcrosses : pattern.crosses = true)
    (hkeeps : pattern.mayEnd false true = false) {t : Text} {place : Place} (h : place.IsOf t) :
    pattern.spanAt place.crlf =
      (pattern.spanAt place).map (Prod.map (Place.crlfIndex t) (Place.crlfIndex t)) := by
  have hends : (pattern.ends place.crlf).head? = (pattern.ends place).head?.map Place.crlf :=
    head?_ends (follows_crlf hcrosses) (keeps_crlf hkeeps) place
  rw [spanAt, hends, spanAt, Option.map_map, Option.map_map, h.index_crlf]
  refine Option.map_congr fun stop hstop => ?_
  have hstop := isOf_of_mem_ends h (List.mem_of_mem_head? hstop)
  simp only [Function.comp_apply, hstop.index_crlf, Prod.map_apply]

theorem count_crlf {pattern : Pattern} (h : pattern.ignoresEnds = true) (t : Text) :
    pattern.count (crlf t) = pattern.count t := by
  simp only [ignoresEnds, Bool.and_eq_true, Bool.not_eq_true'] at h
  obtain ⟨⟨⟨hcrosses, hkeeps⟩, hin⟩, hout⟩ := h
  have hinside : ∀ q : Place, q.between = true → pattern.spanAt q = none := by
    intro q hq
    rw [spanAt, ends_eq_nil_of_between hin hout hq]
    rfl
  have hspans : ((Place.all t).filterMap fun q => pattern.spanAt q.crlf) =
      ((Place.all t).filterMap pattern.spanAt).map
        (Prod.map (Place.crlfIndex t) (Place.crlfIndex t)) := by
    rw [List.map_filterMap]
    exact List.filterMap_congr fun place hp =>
      spanAt_crlf hcrosses hkeeps (Place.isOf_of_mem_all hp)
  -- Both counts start at the start of the text, and only the order of the indices matters to them.
  have hzero : Place.crlfIndex t 0 = 0 := rfl
  rw [count_eq, Place.filterMap_all_crlf hinside, hspans, ← hzero,
    countApart_map (Place.crlfIndex_strictMono t), count_eq]

end Pattern

end Critique
