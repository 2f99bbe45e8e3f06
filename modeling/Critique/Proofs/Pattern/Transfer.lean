import Critique.Proofs.Pattern.Backtracking

/-!
# Places that go over to another text

When a text is changed, its places go over to the new text, which may have places of its own
besides. A pattern follows such a transfer if it finds at the new place what it found at the old
one, as long as nothing is looked for at the places that were added. `head?_ends`: if a match never
ends at an added place either, the first match at the new place is the old one.
-/

namespace Critique

/-- How the places of a text go over to another one. -/
structure Transfer where
  carry : Place → Place
  /-- The places that only the new text has. -/
  added : Place → Prop
  not_added : ∀ place, ¬ added (carry place)

namespace Pattern

variable {m : Transfer} {pattern first second left right : Pattern}

/-- What is found behind a match is found there still. -/
def Follows (m : Transfer) (pattern : Pattern) : Prop :=
  ∀ {α : Type} (place : Place) (find : Place → Option α), (∀ q, m.added q → find q = none) →
    (pattern.ends (m.carry place)).findSome? find =
      (pattern.ends place).findSome? fun stop => find (m.carry stop)

/-- A match that starts at an added place ends at one. -/
def Stays (m : Transfer) (pattern : Pattern) : Prop :=
  ∀ q stop, m.added q → stop ∈ pattern.ends q → m.added stop

/-- No match that starts at a place of the old text ends at an added one. -/
def Keeps (m : Transfer) (pattern : Pattern) : Prop :=
  ∀ q stop, ¬ m.added q → stop ∈ pattern.ends q → ¬ m.added stop

/-- A character of the class is taken, and the match ends behind it. -/
theorem of_mem_ends_one {cls : Char → Bool} {place stop : Place} (h : stop ∈ (one cls).ends place) :
    ∃ c after, place.after = c :: after ∧ cls c = true ∧
      stop = ⟨place.index + 1, c :: place.before, after⟩ := by
  obtain ⟨index, before, after⟩ := place
  cases after with
  | nil => cases h
  | cons c after =>
    by_cases hc : cls c
    · simp only [ends, Place.next?, hc, if_true, Option.toList_some, List.mem_singleton] at h
      exact ⟨c, after, rfl, hc, h⟩
    · simp [ends, Place.next?, hc] at h

theorem findSome?_congr {α β : Type} {f g : β → Option α} {l : List β} (h : ∀ b ∈ l, f b = g b) :
    l.findSome? f = l.findSome? g := by
  induction l with
  | nil => rfl
  | cons b l ih =>
    obtain ⟨hb, hl⟩ := List.forall_mem_cons.mp h
    rw [List.findSome?_cons, List.findSome?_cons, hb, ih hl]

theorem follows_nothing : Follows m nothing := fun _ _ _ => rfl

theorem follows_here {anchor : Anchor}
    (h : ∀ place, anchor.holds (m.carry place) = anchor.holds place) : Follows m (here anchor) := by
  intro α place find _
  simp only [ends, h]
  split <;> rfl

theorem follows_seq (hf : Follows m first) (hs : Follows m second)
    (hadded : Stays m second ∨ Keeps m first) : Follows m (seq first second) := by
  classical
  intro α place find hfind
  simp only [ends, findSome?_flatMap]
  rcases hadded with hstays | hkeeps
  · rw [hf place _ fun q hq => List.findSome?_eq_none_iff.mpr fun stop hstop =>
      hfind stop (hstays q stop hq hstop)]
    exact findSome?_congr fun stop _ => hs stop find hfind
  · -- The first part is only asked at places of the old text.
    have hold := hf place (fun q => if m.added q then none else (second.ends q).findSome? find)
      fun q hq => if_pos hq
    simp only [m.not_added, if_false] at hold
    rw [← findSome?_congr fun stop _ => hs stop find hfind, ← hold]
    refine findSome?_congr fun stop hstop => ?_
    rw [if_neg (hkeeps _ stop (m.not_added place) hstop)]

theorem follows_alt (hl : Follows m left) (hr : Follows m right) : Follows m (alt left right) := by
  intro α place find hfind
  simp only [ends, List.findSome?_append, hl place find hfind, hr place find hfind]

/-- The first match at the new place is the one at the old place. -/
theorem head?_ends (hf : Follows m pattern) (hk : Keeps m pattern) (place : Place) :
    (pattern.ends (m.carry place)).head? = (pattern.ends place).head?.map m.carry := by
  classical
  have hold := hf place (fun q => if m.added q then none else some q) fun q hq => if_pos hq
  simp only [m.not_added, if_false] at hold
  rw [findSome?_congr fun stop hstop => if_neg (hk _ stop (m.not_added place) hstop)] at hold
  cases hn : pattern.ends (m.carry place) <;> cases ho : pattern.ends place <;> simp_all

theorem ends_eq_nil_iff (hf : Follows m pattern) (hk : Keeps m pattern) (place : Place) :
    pattern.ends (m.carry place) = [] ↔ pattern.ends place = [] := by
  rw [← List.head?_eq_none_iff, head?_ends hf hk, Option.map_eq_none_iff, List.head?_eq_none_iff]

/-- A pattern occurs in the new text if it does in the old one, unless it starts to match elsewhere
than at the old places. -/
theorem occursIn_eq (hf : Follows m pattern) (hk : Keeps m pattern) {t u : Text}
    (hcarry : ∀ place ∈ Place.all t, m.carry place ∈ Place.all u)
    (hall : ∀ q ∈ Place.all u, (∃ place ∈ Place.all t, m.carry place = q) ∨ pattern.ends q = []) :
    pattern.occursIn u = pattern.occursIn t := by
  rw [Bool.eq_iff_iff, occursIn_iff, occursIn_iff]
  constructor
  · rintro ⟨q, hq, hne⟩
    obtain ⟨place, hp, rfl⟩ := (hall q hq).resolve_right hne
    exact ⟨place, hp, mt (ends_eq_nil_iff hf hk place).mpr hne⟩
  · rintro ⟨place, hp, hne⟩
    exact ⟨m.carry place, hcarry place hp, mt (ends_eq_nil_iff hf hk place).mp hne⟩

end Pattern

end Critique
