import Critique.Pattern

/-!
# Backtracking

What a pattern matches, told from the start of a match. `Pattern.ends` lists the places where a
match from a given place may end, in the order in which they are tried. `sweep_hits`: the sweep
from the end of a text finds, at each place, what the first of these ends leads to. So `starts`,
`occursIn` and `count` are those of the matcher that goes forward and backtracks.
-/

namespace Critique

variable {α : Type}

/-- The places from one on, to the end of the text. -/
def Place.along : (index : Nat) → (before after : Text) → List Place
  | index, before, [] => [⟨index, before, []⟩]
  | index, before, c :: after =>
    ⟨index, before, c :: after⟩ :: along (index + 1) (c :: before) after

def Place.all (t : Text) : List Place := along 0 [] t

/-- The place one character on, if that character is of a class. -/
def Place.next? (cls : Char → Bool) : Place → Option Place
  | ⟨index, before, c :: after⟩ => if cls c then some ⟨index + 1, c :: before, after⟩ else none
  | ⟨_, _, []⟩ => none

/-- The hits among some places, of what is found there. -/
def Hit.among (find : Place → Option α) (places : List Place) : List (Hit α) :=
  places.filterMap fun place => (find place).map (⟨place, ·⟩)

namespace Pattern

/-- Where a run of a class may end, the longest run first. -/
def runEnds (cls : Char → Bool) : (index : Nat) → (before after : Text) → List Place
  | index, before, [] => [⟨index, before, []⟩]
  | index, before, c :: after =>
    (if cls c then runEnds cls (index + 1) (c :: before) after else []) ++
      [⟨index, before, c :: after⟩]

/-- Where a match that starts at a place may end, in the order in which the ends are tried. -/
def ends : Pattern → Place → List Place
  | .nothing, place => [place]
  | .one cls, place => (place.next? cls).toList
  | .many cls, place => runEnds cls place.index place.before place.after
  | .here anchor, place => if anchor.holds place then [place] else []
  | .seq first second, place => (first.ends place).flatMap second.ends
  | .alt left right, place => left.ends place ++ right.ends place

end Pattern

-- ---------------------------------------------------------------------------
-- Hits in the order of the text
-- ---------------------------------------------------------------------------

namespace Hit

variable {cls : Char → Bool} {find : Place → Option α} {index : Nat} {before after : Text}

theorem among_cons (place : Place) (places : List Place) :
    Hit.among find (place :: places) =
      ((find place).map (⟨place, ·⟩ : α → Hit α)).toList ++ Hit.among find places := by
  cases h : find place <;> simp [Hit.among, h]

theorem filterMap_toList_map {β γ : Type} (found : Option α) (f : α → β) (g : β → Option γ) :
    (found.map f).toList.filterMap g = (found.bind fun a => g (f a)).toList := by
  cases found with
  | none => rfl
  | some a => cases h : g (f a) <;> simp [h]

theorem isEmpty_among (places : List Place) :
    (Hit.among find places).isEmpty = places.all fun place => (find place).isNone := by
  induction places with
  | nil => rfl
  | cons place places ih => cases h : find place <;> simp [among_cons, h, ih]

theorem index_of_mem_along {place : Place} (h : place ∈ Place.along index before after) :
    index ≤ place.index := by
  induction after generalizing index before with
  | nil => simp [Place.along] at h; simp [h]
  | cons c after ih =>
    rcases List.mem_cons.mp h with rfl | h
    · exact Nat.le_refl _
    · exact Nat.le_of_succ_le (ih h)

theorem place_of_mem_among {hit : Hit α} {places : List Place} (h : hit ∈ Hit.among find places) :
    hit.place ∈ places := by
  obtain ⟨place, hp, h⟩ := List.mem_filterMap.mp h
  obtain ⟨found, -, rfl⟩ := Option.map_eq_some_iff.mp h
  exact hp

theorem index_of_mem_among {hit : Hit α}
    (h : hit ∈ Hit.among find (Place.along index before after)) : index ≤ hit.place.index :=
  index_of_mem_along (place_of_mem_among h)

theorem everywhere_eq (find : Place → α) :
    everywhere find index before after =
      Hit.among (fun place => some (find place)) (Place.along index before after) := by
  induction after generalizing index before with
  | nil => rfl
  | cons c after ih => simp [everywhere, Place.along, among_cons, ih]

/-- The hits that lead one character back: that of the first place leaves the places, those of the
others stay among them. -/
theorem filterMap_back? :
    (Hit.among find (Place.along index before after)).filterMap (back? cls) =
      ((find ⟨index, before, after⟩).bind fun found =>
          back? cls ⟨⟨index, before, after⟩, found⟩).toList ++
        Hit.among (fun place => (place.next? cls).bind find) (Place.along index before after) := by
  induction after generalizing index before with
  | nil =>
    simp only [Place.along, among_cons, List.filterMap_append, filterMap_toList_map]
    simp [Hit.among, Place.next?]
  | cons c after ih =>
    rw [Place.along, among_cons, among_cons, List.filterMap_append, filterMap_toList_map, ih]
    congr 2
    by_cases hc : cls c <;> cases h : find ⟨index + 1, c :: before, after⟩ <;>
      simp [Place.next?, back?, hc, h]

-- ---------------------------------------------------------------------------
-- Runs
-- ---------------------------------------------------------------------------

theorem climb_reaches (found : α) (later : List (Hit α)) :
    ∃ hit ∈ (climb cls found index before after later).head?, hit.place.index ≤ index := by
  induction before generalizing index after later with
  | nil => exact ⟨_, rfl, Nat.le_refl _⟩
  | cons c before ih =>
    by_cases hc : cls c
    · obtain ⟨hit, hh, hle⟩ := @ih (index - 1) (c :: after)
        (⟨⟨index, c :: before, after⟩, found⟩ :: later)
      exact ⟨hit, by simpa [climb, hc] using hh, by omega⟩
    · exact ⟨⟨⟨index, c :: before, after⟩, found⟩, by simp [climb, hc], Nat.le_refl _⟩

theorem spread_of_reached {hit : Hit α} {later : List (Hit α)}
    (h : ∃ other ∈ later.head?, other.place.index ≤ hit.place.index) :
    spread cls hit later = later := by
  obtain ⟨other, ho, hle⟩ := h
  have ho : later.head? = some other := ho
  simp [spread, ho, hle]

theorem spread_of_lt {hit : Hit α} {later : List (Hit α)}
    (h : ∀ other ∈ later, hit.place.index < other.place.index) :
    spread cls hit later =
      climb cls hit.found hit.place.index hit.place.before hit.place.after later := by
  cases later with
  | nil => rfl
  | cons other later =>
    have := h other (by simp)
    simp [spread, Nat.not_le_of_lt this]

/-- What the longest run from a place leads to, or a shorter one if that leads nowhere. -/
def afterRun (cls : Char → Bool) (find : Place → Option α) (place : Place) : Option α :=
  (Pattern.runEnds cls place.index place.before place.after).findSome? find

theorem afterRun_nil : afterRun cls find ⟨index, before, []⟩ = find ⟨index, before, []⟩ := by
  cases h : find ⟨index, before, []⟩ <;> simp [afterRun, Pattern.runEnds, h]

theorem afterRun_cons {c : Char} :
    afterRun cls find ⟨index, before, c :: after⟩ =
      (if cls c then afterRun cls find ⟨index + 1, c :: before, after⟩ else none).or
        (find ⟨index, before, c :: after⟩) := by
  by_cases hc : cls c <;> cases h : find ⟨index, before, c :: after⟩ <;>
    simp [afterRun, Pattern.runEnds, hc, h]

theorem among_along :
    Hit.among find (Place.along index before after) =
      ((find ⟨index, before, after⟩).map (⟨⟨index, before, after⟩, ·⟩ : α → Hit α)).toList ++
        Hit.among find (Place.along index before after).tail := by
  cases after <;> simp [Place.along, among_cons]

/-- The run that goes on from a place also leads back from it, past the first of the places. -/
theorem foldr_spread :
    (Hit.among find (Place.along index before after)).foldr (spread cls) [] =
      (afterRun cls find ⟨index, before, after⟩).elim
        (Hit.among (afterRun cls find) (Place.along index before after).tail)
        (climb cls · index before after
          (Hit.among (afterRun cls find) (Place.along index before after).tail)) := by
  induction after generalizing index before with
  | nil =>
    cases h : find ⟨index, before, []⟩ <;>
      simp [Place.along, afterRun_nil, h, spread, Hit.among]
  | cons c after ih =>
    have hrest := @among_along α (afterRun cls find) (index + 1) (c :: before) after
    simp only [Place.along, among_cons, List.foldr_append, ih, afterRun_cons, List.tail_cons]
    cases hr : if cls c then afterRun cls find ⟨index + 1, c :: before, after⟩ else none with
    | some found =>
      -- The run passes the first place, so what it leads back to is there already.
      obtain ⟨hc, hr⟩ := Option.ite_none_right_eq_some.mp hr
      simp only [hr, Option.map_some, Option.toList_some, List.singleton_append] at hrest
      have hback : climb cls found (index + 1) (c :: before) after
          (Hit.among (afterRun cls find) (Place.along (index + 1) (c :: before) after).tail) =
          climb cls found index before (c :: after)
            (Hit.among (afterRun cls find) (Place.along (index + 1) (c :: before) after)) := by
        simp [climb, hc, hrest]
      simp only [hr, Option.elim_some, hback, Option.some_or]
      cases find ⟨index, before, c :: after⟩ with
      | none => rfl
      | some v => exact spread_of_reached (climb_reaches found _)
    | none =>
      have hstay : (afterRun cls find ⟨index + 1, c :: before, after⟩).elim
          (Hit.among (afterRun cls find) (Place.along (index + 1) (c :: before) after).tail)
          (climb cls · (index + 1) (c :: before) after
            (Hit.among (afterRun cls find) (Place.along (index + 1) (c :: before) after).tail)) =
          Hit.among (afterRun cls find) (Place.along (index + 1) (c :: before) after) := by
        cases h : afterRun cls find ⟨index + 1, c :: before, after⟩ with
        | none => simp [hrest, h]
        | some found =>
          have hc : cls c = false := by simpa [h] using hr
          simp [hrest, h, climb, hc]
      simp only [hstay, Option.none_or]
      cases find ⟨index, before, c :: after⟩ with
      | none => rfl
      | some found => exact spread_of_lt fun hit h => index_of_mem_among h

-- ---------------------------------------------------------------------------
-- Choices
-- ---------------------------------------------------------------------------

theorem merge_cons_of_lt {hits others : List (Hit α)} {other : Hit α}
    (h : ∀ hit ∈ hits, other.place.index < hit.place.index) :
    merge hits (other :: others) = other :: merge hits others := by
  cases hits with
  | nil => rfl
  | cons hit hits => simp [merge, insert, h hit (by simp)]

theorem insert_of_lt {hit : Hit α} {rest : List (Hit α) → List (Hit α)} {others : List (Hit α)}
    (h : ∀ other ∈ others, hit.place.index < other.place.index) :
    insert hit rest others = hit :: rest others := by
  cases others with
  | nil => rfl
  | cons other others =>
    have := h other (by simp)
    simp [insert, Nat.not_lt_of_gt this, Nat.ne_of_gt this]

theorem merge_among {other : Place → Option α} :
    merge (Hit.among find (Place.along index before after))
        (Hit.among other (Place.along index before after)) =
      Hit.among (fun place => (find place).or (other place)) (Place.along index before after) := by
  induction after generalizing index before with
  | nil =>
    cases h : find ⟨index, before, []⟩ <;> cases h' : other ⟨index, before, []⟩ <;>
      simp [Place.along, Hit.among, merge, insert, h, h']
  | cons c after ih =>
    have hlt {f : Place → Option α} : ∀ hit ∈ Hit.among f
        (Place.along (index + 1) (c :: before) after), index < hit.place.index :=
      fun hit h => index_of_mem_among h
    simp only [Place.along, among_cons, ← ih]
    cases find ⟨index, before, c :: after⟩ with
    | none =>
      cases other ⟨index, before, c :: after⟩ with
      | none => rfl
      | some found => exact merge_cons_of_lt hlt
    | some found =>
      cases other ⟨index, before, c :: after⟩ with
      | none => exact insert_of_lt hlt
      | some found' => simp [merge, insert]

end Hit

namespace Pattern

-- ---------------------------------------------------------------------------
-- The sweep
-- ---------------------------------------------------------------------------

theorem findSome?_flatMap {β γ : Type} (f : β → List γ) (g : γ → Option α) (l : List β) :
    (l.flatMap f).findSome? g = l.findSome? fun b => (f b).findSome? g := by
  induction l with
  | nil => rfl
  | cons b l ih => simp [List.findSome?_cons, ih]; cases (f b).findSome? g <;> rfl

theorem findSome?_toList {β : Type} (g : β → Option α) (o : Option β) :
    o.toList.findSome? g = o.bind g := by
  cases o with
  | none => rfl
  | some b => cases h : g b <;> simp [h]

/-- Swept from the end of the text, a pattern leads from a place to what is found at the first of
its ends where something is found. -/
theorem sweep_among (pattern : Pattern) (find : Place → Option α) (t : Text) :
    pattern.sweep (Hit.among find (Place.all t)) =
      Hit.among (fun place => (pattern.ends place).findSome? find) (Place.all t) := by
  induction pattern generalizing find with
  | nothing => simp [sweep, ends]
  | one cls =>
    simp only [sweep, ends, findSome?_toList]
    rw [Place.all, Hit.filterMap_back?]
    cases find ⟨0, [], t⟩ <;> rfl
  | many cls =>
    show (Hit.among find (Place.all t)).foldr (Hit.spread cls) [] =
      Hit.among (Hit.afterRun cls find) (Place.all t)
    rw [Place.all, Hit.foldr_spread, Hit.among_along]
    cases Hit.afterRun cls find ⟨0, [], t⟩ <;> rfl
  | here anchor =>
    simp only [sweep, ends]
    induction Place.all t with
    | nil => rfl
    | cons place places ih =>
      rw [Hit.among_cons, Hit.among_cons, List.filter_append, ih]
      congr 1
      cases h : find place <;> cases ha : anchor.holds place <;> simp [h, ha]
  | seq first second ihf ihs => simp [sweep, ends, ihf, ihs, findSome?_flatMap]
  | alt left right ihl ihr =>
    simp only [sweep, ends, ihl, ihr, List.findSome?_append]
    exact Hit.merge_among

/-- Each start of a match, with what is found at the first of its ends. -/
theorem starts_eq (pattern : Pattern) (find : Place → α) (t : Text) :
    pattern.starts find t =
      Hit.among (fun place => (pattern.ends place).head?.map find) (Place.all t) := by
  rw [starts, Hit.everywhere_eq]
  refine (pattern.sweep_among (fun place => some (find place)) t).trans ?_
  congr 1
  funext place
  cases pattern.ends place <;> simp

theorem occursIn_iff {pattern : Pattern} {t : Text} :
    pattern.occursIn t = true ↔ ∃ place ∈ Place.all t, pattern.ends place ≠ [] := by
  simp only [occursIn, starts_eq, Hit.isEmpty_among, Bool.not_eq_true', List.all_eq_false]
  refine exists_congr fun place => and_congr_right fun _ => ?_
  cases pattern.ends place <;> simp

end Pattern

end Critique
