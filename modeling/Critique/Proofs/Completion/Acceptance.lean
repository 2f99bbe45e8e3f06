import Critique.Completion.Acceptance
import Critique.Proofs.Text.Blank
import Critique.Proofs.Text.Parts

/-!
# When a completion is accepted

A completion is judged by what is left of the reply without one copy of the prompt in front and
without the blanks around it. `check_decides`: the verdict for every reply, and how it depends on
the prompt and on the length that is asked for. `echo_accepted_iff`: the prompt is looked for before
the blanks are cut, and once, so it comes back behind blanks or behind itself.
-/

namespace Critique.Completion

open Text (blank trim trimStart trimEnd)

variable {acceptance : Acceptance} {prompt reply rest text : Text} {result : Except Fault Text}

-- ---------------------------------------------------------------------------
-- What is left of a reply
-- ---------------------------------------------------------------------------

/-- What is left of a reply without one copy of the prompt in front, if it starts with one. -/
inductive Remainder (prompt : Text) : (reply rest : Text) → Prop where
  | echoed (rest : Text) : Remainder prompt (prompt ++ rest) rest
  | plain {reply : Text} : ¬ prompt <+: reply → Remainder prompt reply reply

theorem exists_remainder (prompt reply : Text) : ∃ rest, Remainder prompt reply rest := by
  by_cases h : prompt <+: reply
  · obtain ⟨rest, rfl⟩ := h
    exact ⟨rest, .echoed rest⟩
  · exact ⟨reply, .plain h⟩

theorem Remainder.answer_eq (h : Remainder prompt reply rest) :
    answer prompt reply = trim rest := by
  cases h with
  | echoed => rw [answer, Text.after?_append, Option.getD_some]
  | plain hp => rw [answer, Text.after?_eq_none_iff.mpr hp, Option.getD_none]

theorem trim_answer (prompt reply : Text) : trim (answer prompt reply) = answer prompt reply :=
  Text.trim_trim _

-- ---------------------------------------------------------------------------
-- The verdict
-- ---------------------------------------------------------------------------

namespace Acceptance

/-- The text says that there is no completion yet. -/
def Waits (acceptance : Acceptance) (text : Text) : Prop :=
  acceptance.sentinel ≠ [] ∧ acceptance.sentinel <:+: text

/-- What is decided about a text without blanks around it. -/
inductive Decides (acceptance : Acceptance) (text : Text) : Except Fault Text → Prop where
  | empty : text = [] → Decides acceptance text (.error .empty)
  | loading : text ≠ [] → acceptance.Waits text → Decides acceptance text (.error .loading)
  | tooShort : text ≠ [] → ¬ acceptance.Waits text → text.length ≤ acceptance.minChars →
      Decides acceptance text (.error (.tooShort text.length))
  | ok : text ≠ [] → ¬ acceptance.Waits text → acceptance.minChars < text.length →
      Decides acceptance text (.ok text)

theorem waits_iff :
    (!acceptance.sentinel.isEmpty && Text.contains acceptance.sentinel text) = true ↔
      acceptance.Waits text := by
  simp [Waits, Text.contains_iff]

theorem decides_check (acceptance : Acceptance) (prompt reply : Text) :
    acceptance.Decides (answer prompt reply) (acceptance.check prompt reply) := by
  unfold check
  simp only [List.isEmpty_iff]
  split
  next he => exact .empty he
  next hne =>
    split
    next hw => exact .loading hne (waits_iff.mp hw)
    next hw =>
      split
      next hle => exact .tooShort hne (mt waits_iff.mpr hw) hle
      next hlt => exact .ok hne (mt waits_iff.mpr hw) (Nat.lt_of_not_le hlt)

theorem check_of_decides (h : acceptance.Decides (answer prompt reply) result) :
    acceptance.check prompt reply = result := by
  unfold check
  simp only [List.isEmpty_iff]
  cases h with
  | empty he => rw [if_pos he]
  | loading hne hw => rw [if_neg hne, if_pos (waits_iff.mpr hw)]
  | tooShort hne hw hle => rw [if_neg hne, if_neg (mt waits_iff.mp hw), if_pos hle]
  | ok hne hw hlt =>
    rw [if_neg hne, if_neg (mt waits_iff.mp hw), if_neg (Nat.not_le_of_lt hlt)]

theorem check_iff :
    acceptance.check prompt reply = result ↔ acceptance.Decides (answer prompt reply) result := by
  constructor
  · rintro rfl
    exact acceptance.decides_check prompt reply
  · exact check_of_decides

theorem eq_answer_of_check (h : acceptance.check prompt reply = .ok text) :
    text = answer prompt reply := by
  cases check_iff.mp h
  rfl

theorem check_congr {other otherReply : Text} (h : answer prompt reply = answer other otherReply) :
    acceptance.check prompt reply = acceptance.check other otherReply :=
  check_of_decides (h ▸ acceptance.decides_check other otherReply)

/-- One copy of the prompt in front of a reply makes no difference. -/
theorem check_echoed (h : ¬ prompt <+: rest) :
    acceptance.check prompt (prompt ++ rest) = acceptance.check prompt rest :=
  check_congr ((Remainder.echoed rest).answer_eq.trans (Remainder.plain h).answer_eq.symm)

theorem check_accepted (h : acceptance.check prompt reply = .ok text) (hp : ¬ prompt <+: text) :
    acceptance.check prompt text = .ok text := by
  have htext := eq_answer_of_check h
  have hsame : answer prompt text = answer prompt reply := by
    rw [(Remainder.plain hp).answer_eq, htext, trim_answer]
  rw [check_congr hsame, h]

theorem check_raised {minChars : Nat} (hle : acceptance.minChars ≤ minChars) (prompt reply : Text) :
    { acceptance with minChars }.check prompt reply = acceptance.check prompt reply ∨
      ∃ text, acceptance.check prompt reply = .ok text ∧ text.length ≤ minChars ∧
        { acceptance with minChars }.check prompt reply = .error (.tooShort text.length) := by
  have hraised {result} :
      { acceptance with minChars }.Decides (answer prompt reply) result →
        { acceptance with minChars }.check prompt reply = result := check_of_decides
  have hcheck := acceptance.decides_check prompt reply
  generalize acceptance.check prompt reply = result at hcheck ⊢
  cases hcheck with
  | empty he => exact .inl (hraised (.empty he))
  | loading hne hw => exact .inl (hraised (.loading hne hw))
  | tooShort hne hw hlength => exact .inl (hraised (.tooShort hne hw (hlength.trans hle)))
  | ok hne hw hlength =>
    rcases Nat.lt_or_ge minChars (answer prompt reply).length with hlt | hge
    · exact .inl (hraised (.ok hne hw hlt))
    · exact .inr ⟨_, rfl, hge, hraised (.tooShort hne hw hge)⟩

/-- A reply is judged by what is left of it, trimmed: nothing, a text with the sentinel, one that is
too short, or a completion. So one echo of the prompt makes no difference, what was accepted is
accepted again unless it starts with the prompt, and asking for more characters only turns
completions into texts that are too short. -/
theorem check_decides (acceptance : Acceptance) (prompt reply : Text) :
    (∃ rest, Remainder prompt reply rest) ∧
    (∀ rest result, Remainder prompt reply rest →
      (acceptance.check prompt reply = result ↔ acceptance.Decides (trim rest) result)) ∧
    (∀ rest, ¬ prompt <+: rest →
      acceptance.check prompt (prompt ++ rest) = acceptance.check prompt rest) ∧
    (∀ text, acceptance.check prompt reply = .ok text → ¬ prompt <+: text →
      acceptance.check prompt text = .ok text) ∧
    ∀ minChars, acceptance.minChars ≤ minChars →
      { acceptance with minChars }.check prompt reply = acceptance.check prompt reply ∨
        ∃ text, acceptance.check prompt reply = .ok text ∧ text.length ≤ minChars ∧
          { acceptance with minChars }.check prompt reply = .error (.tooShort text.length) := by
  refine ⟨exists_remainder prompt reply, fun rest result h => ?_, fun rest => check_echoed,
    fun text => check_accepted, fun minChars hle => check_raised hle prompt reply⟩
  rw [check_iff, h.answer_eq]

/-- A reply with an echo in front and blanks around it, and seventeen characters without them. -/
theorem check_decides_echo :
    let acceptance : Acceptance := ⟨9, "loading"⟩
    let prompt : Text := "Explain: "
    let rest : Text := "\t It adds.  \n"
    let text : Text := "It adds.  \nTwice."
    let reply := prompt ++ rest ++ "Twice.\n".toList
    Remainder prompt reply (rest ++ "Twice.\n".toList) ∧
      acceptance.Decides (trim (rest ++ "Twice.\n".toList)) (.ok text) ∧
      ¬ prompt <+: rest ∧ acceptance.check prompt (prompt ++ rest) = acceptance.check prompt rest ∧
      acceptance.check prompt reply = .ok text ∧ ¬ prompt <+: text ∧
      acceptance.check prompt text = .ok text ∧ acceptance.minChars ≤ 17 ∧
      ∃ text, acceptance.check prompt reply = .ok text ∧ text.length ≤ 17 ∧
        { acceptance with minChars := 17 }.check prompt reply = .error (.tooShort text.length) := by
  intro acceptance prompt rest text reply
  have hremainder : Remainder prompt reply (rest ++ "Twice.\n".toList) := .echoed _
  have hok : acceptance.check prompt reply = .ok text := by decide
  have hrest : ¬ prompt <+: rest := by decide
  have htext : ¬ prompt <+: text := by decide
  obtain ⟨-, hdecides, hecho, hagain, hraised⟩ := check_decides acceptance prompt reply
  refine ⟨hremainder, (hdecides _ _ hremainder).mp hok, hrest, hecho rest hrest, hok, htext,
    hagain text hok htext, by decide, (hraised 17 (by decide)).resolve_left ?_⟩
  decide

end Acceptance

-- ---------------------------------------------------------------------------
-- Echoes of the prompt
-- ---------------------------------------------------------------------------

/-- Trimming leaves the prompt in front of a text as it is. -/
structure Lasts (prompt rest : Text) : Prop where
  start : trimStart prompt = prompt
  stop : blank rest = true → trimEnd prompt = prompt

theorem Lasts.prefix_trim (hp : blank prompt = false) (h : Lasts prompt rest) :
    prompt <+: trim (prompt ++ rest) := by
  rw [trim, Text.trimStart_append_blank hp, h.start]
  cases hr : blank rest with
  | true =>
    have hkept : trimEnd (prompt ++ rest) = prompt := by
      rw [Text.trimEnd_append_blank hr, h.stop hr]
    exact ⟨[], by rw [hkept, List.append_nil]⟩
  | false => exact ⟨trimEnd rest, (Text.trimEnd_append hr prompt).symm⟩

theorem lasts_of_prefix_trim (hp : blank prompt = false) {tail trail : Text}
    (h : trim text = prompt ++ tail) : Lasts prompt (tail ++ trail) := by
  constructor
  · have hstart := Text.trimStart_trim text
    rw [h, Text.trimStart_append_blank hp] at hstart
    exact List.append_cancel_right hstart
  · intro hb
    rw [Text.blank_append, Bool.and_eq_true] at hb
    have hend := Text.trimEnd_trim text
    rw [h, Text.trimEnd_append_blank hb.1] at hend
    obtain ⟨lost, -, he⟩ := Text.exists_trimEnd prompt
    have hlength := congrArg List.length he
    rw [hend, List.length_append, List.length_append] at hlength
    have htail : tail = [] := List.eq_nil_of_length_eq_zero (by omega)
    rw [hend, htail, List.append_nil]

/-- A trimmed text starts with the prompt if that stands behind the blanks in front and lasts. -/
theorem prefix_trim_iff (hp : blank prompt = false) : prompt <+: trim text ↔
    ∃ margin rest, blank margin = true ∧ text = margin ++ prompt ++ rest ∧ Lasts prompt rest := by
  constructor
  · rintro ⟨tail, htail⟩
    obtain ⟨margin, trail, hm, -, he⟩ := Text.exists_trim text
    refine ⟨margin, tail ++ trail, hm, ?_, lasts_of_prefix_trim hp htail.symm⟩
    conv => lhs; rw [he, ← htail]
    simp only [List.append_assoc]
  · rintro ⟨margin, rest, hm, rfl, hlasts⟩
    rw [List.append_assoc, Text.trim_blank_append hm]
    exact hlasts.prefix_trim hp

/-- Behind blanks the prompt is not where a reply starts. -/
theorem not_prefix_of_margin (hp : blank prompt = false) {margin : Text} (hne : margin ≠ [])
    (hm : blank margin = true) (rest : Text) : ¬ prompt <+: margin ++ prompt ++ rest := by
  rintro ⟨tail, htail⟩
  have hstart := congrArg trimStart htail
  rw [List.append_assoc, Text.trimStart_blank_append hm, Text.trimStart_append_blank hp,
    Text.trimStart_append_blank hp] at hstart
  rw [List.append_cancel_left hstart] at htail
  have hlength := congrArg List.length htail
  simp only [List.length_append] at hlength
  exact hne (List.eq_nil_of_length_eq_zero (by omega))

/-- Replies that show the prompt once more when one copy in front and the blanks are cut. -/
inductive Resurfaces (prompt : Text) : (reply : Text) → Prop where
  | late {margin rest : Text} : margin ≠ [] → blank margin = true → Lasts prompt rest →
      Resurfaces prompt (margin ++ prompt ++ rest)
  | again {margin rest : Text} : blank margin = true → Lasts prompt rest →
      Resurfaces prompt (prompt ++ (margin ++ prompt ++ rest))

theorem prefix_answer_iff (hp : blank prompt = false) :
    prompt <+: answer prompt reply ↔ Resurfaces prompt reply := by
  constructor
  · intro h
    obtain ⟨rest, hremainder⟩ := exists_remainder prompt reply
    rw [hremainder.answer_eq, prefix_trim_iff hp] at h
    obtain ⟨margin, tail, hm, rfl, hlasts⟩ := h
    cases hremainder with
    | echoed => exact .again hm hlasts
    | plain hplain =>
      refine .late ?_ hm hlasts
      rintro rfl
      exact hplain ⟨tail, rfl⟩
  · intro h
    cases h with
    | late hne hm hlasts =>
      rw [(Remainder.plain (not_prefix_of_margin hp hne hm _)).answer_eq, prefix_trim_iff hp]
      exact ⟨_, _, hm, rfl, hlasts⟩
    | again hm hlasts =>
      rw [(Remainder.echoed _).answer_eq, prefix_trim_iff hp]
      exact ⟨_, _, hm, rfl, hlasts⟩

theorem answer_echo {after : Text} (ha : blank after = true) :
    answer prompt (prompt ++ after) = [] := by
  rw [(Remainder.echoed after).answer_eq]
  exact Text.trim_append_blank ha []

theorem answer_late (hp : blank prompt = false) {before after : Text} (hne : before ≠ [])
    (hb : blank before = true) (ha : blank after = true) :
    answer prompt (before ++ prompt ++ after) = trim prompt := by
  rw [(Remainder.plain (not_prefix_of_margin hp hne hb after)).answer_eq, Text.trim_append_blank ha,
    Text.trim_blank_append hb]

/-- A completion starts with the prompt just where the reply has the prompt behind blanks, or behind
itself. A reply of the prompt and blanks is rejected where nothing stands in front of the prompt;
where blanks do, the prompt is judged like a completion. -/
theorem echo_accepted_iff (acceptance : Acceptance) (hp : blank prompt = false) :
    (∀ reply text, acceptance.check prompt reply = .ok text →
      (prompt <+: text ↔ Resurfaces prompt reply)) ∧
    (∀ after, blank after = true → acceptance.check prompt (prompt ++ after) = .error .empty) ∧
    ∀ before after result, before ≠ [] → blank before = true → blank after = true →
      (acceptance.check prompt (before ++ prompt ++ after) = result ↔
        acceptance.Decides (trim prompt) result) := by
  refine ⟨fun reply text h => ?_, fun after ha => ?_, fun before after result hne hb ha => ?_⟩
  · rw [Acceptance.eq_answer_of_check h]
    exact prefix_answer_iff hp
  · exact Acceptance.check_iff.mpr (.empty (answer_echo ha))
  · rw [Acceptance.check_iff, answer_late hp hne hb ha]

/-- A prompt that ends in a blank, said twice with an answer behind it, and said behind a tab. -/
theorem echo_accepted_iff_twice :
    let acceptance : Acceptance := ⟨7, []⟩
    let prompt : Text := "Explain: "
    let reply : Text := "Explain:  \nExplain: it adds."
    let text : Text := "Explain: it adds."
    blank prompt = false ∧ acceptance.check prompt reply = .ok text ∧ Resurfaces prompt reply ∧
      prompt <+: text ∧ blank " \n".toList = true ∧
      acceptance.check prompt (prompt ++ " \n".toList) = .error .empty ∧
      "\t".toList ≠ [] ∧ blank "\t".toList = true ∧
      acceptance.check prompt ("\t".toList ++ prompt ++ " \n".toList) = .ok "Explain:".toList ∧
      acceptance.Decides (trim prompt) (.ok "Explain:".toList) := by
  intro acceptance prompt reply text
  have hp : blank prompt = false := by decide
  have hok : acceptance.check prompt reply = .ok text := by decide
  have hlasts : Lasts prompt "it adds.".toList := ⟨by decide, by decide⟩
  have hblank : blank " \n".toList = true := by decide
  have hreply : Resurfaces prompt reply := .again hblank hlasts
  have htab : blank "\t".toList = true := by decide
  have hlate : acceptance.check prompt ("\t".toList ++ prompt ++ " \n".toList) =
      .ok "Explain:".toList := by decide
  obtain ⟨hstarts, hempty, hjudged⟩ := echo_accepted_iff acceptance hp
  exact ⟨hp, hok, hreply, (hstarts reply text hok).mpr hreply, hblank, hempty _ hblank,
    by decide, htab, hlate, (hjudged _ _ _ (by decide) htab hblank).mp hlate⟩

/-- A line feed and the prompt is accepted as a completion, and it is the prompt. -/
theorem echo_behind_feed_accepted :
    blank "Explain this code:".toList = false ∧ blank "\n".toList = true ∧
      (⟨10, "Model is loading"⟩ : Acceptance).check "Explain this code:"
        ("\n".toList ++ "Explain this code:".toList) = .ok "Explain this code:" := by
  decide

end Critique.Completion
