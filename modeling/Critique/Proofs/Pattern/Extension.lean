import Critique.Proofs.Pattern.Backtracking

/-!
# Matches and the text behind them

A match stays a match when a line feed and more text follow. No anchor sees the difference: where
the text ended there was no word character, and a line feed is none either.
-/

namespace Critique

/-- The place, with more text at the end. -/
def Place.followedBy (more : Text) (place : Place) : Place :=
  { place with after := place.after ++ more }

theorem Place.followedBy_mem_all {place : Place} {t : Text} (more : Text)
    (h : place ∈ Place.all t) : place.followedBy more ∈ Place.all (t ++ more) := by
  suffices ∀ index before, place ∈ along index before t →
      place.followedBy more ∈ along index before (t ++ more) from this 0 [] h
  clear h
  induction t with
  | nil =>
    intro index before h
    simp only [along, List.mem_singleton] at h
    subst h
    cases more <;> simp [followedBy, along]
  | cons c t ih =>
    intro index before h
    rcases List.mem_cons.mp h with rfl | h
    · exact List.mem_cons_self
    · exact List.mem_cons_of_mem _ (ih _ _ h)

theorem Anchor.holds_followedBy (anchor : Anchor) (place : Place) {more : Text}
    (h : more.head?.any Text.isWord = false) :
    anchor.holds (place.followedBy more) = anchor.holds place := by
  obtain ⟨index, before, after⟩ := place
  cases anchor with
  | textStart => rfl
  | lineStart => rfl
  | wordBoundary => cases after <;> simp [holds, Place.followedBy, h]

namespace Pattern

theorem self_mem_runEnds (cls : Char → Bool) (index : Nat) (before after : Text) :
    ⟨index, before, after⟩ ∈ runEnds cls index before after := by
  cases after <;> simp [runEnds]

theorem followedBy_mem_runEnds {cls : Char → Bool} {index : Nat} {before after : Text}
    {stop : Place} (more : Text) (h : stop ∈ runEnds cls index before after) :
    stop.followedBy more ∈ runEnds cls index before (after ++ more) := by
  induction after generalizing index before with
  | nil =>
    simp only [runEnds, List.mem_singleton] at h
    subst h
    exact self_mem_runEnds cls index before more
  | cons c after ih =>
    simp only [runEnds, List.cons_append, List.mem_append, List.mem_singleton] at h ⊢
    rcases h with h | rfl
    · split at h
      · next hc => exact .inl (by simpa [hc] using ih h)
      · cases h
    · exact .inr rfl

theorem followedBy_mem_ends {pattern : Pattern} {place stop : Place} {more : Text}
    (hm : more.head?.any Text.isWord = false) (h : stop ∈ pattern.ends place) :
    stop.followedBy more ∈ pattern.ends (place.followedBy more) := by
  induction pattern generalizing place stop with
  | nothing => simp_all [ends]
  | one cls =>
    obtain ⟨index, before, after⟩ := place
    cases after with
    | nil => simp [ends, Place.next?] at h
    | cons c after =>
      cases hc : cls c with
      | false => simp [ends, Place.next?, hc] at h
      | true =>
        simp only [ends, Place.next?, hc, if_true, Option.toList_some, List.mem_singleton] at h
        subst h
        simp [ends, Place.next?, Place.followedBy, hc]
  | many cls => exact followedBy_mem_runEnds more h
  | here anchor =>
    simp only [ends] at h ⊢
    rw [anchor.holds_followedBy place hm]
    split at h
    · next ha => simp_all
    · cases h
  | seq first second ihf ihs =>
    obtain ⟨middle, hf, hs⟩ := List.mem_flatMap.mp h
    exact List.mem_flatMap.mpr ⟨_, ihf hf, ihs hs⟩
  | alt left right ihl ihr =>
    rcases List.mem_append.mp h with h | h
    · exact List.mem_append_left _ (ihl h)
    · exact List.mem_append_right _ (ihr h)

theorem isWord_feed : Text.isWord '\n' = false := by decide

theorem occursIn_append {pattern : Pattern} {t : Text} (more : Text)
    (h : pattern.occursIn t = true) : pattern.occursIn (t ++ '\n' :: more) = true := by
  obtain ⟨place, hp, hne⟩ := occursIn_iff.mp h
  obtain ⟨stop, hs⟩ := List.exists_mem_of_ne_nil _ hne
  have : stop.followedBy ('\n' :: more) ∈ pattern.ends (place.followedBy ('\n' :: more)) :=
    followedBy_mem_ends isWord_feed hs
  exact occursIn_iff.mpr ⟨_, Place.followedBy_mem_all _ hp, List.ne_nil_of_mem this⟩

end Pattern

end Critique
