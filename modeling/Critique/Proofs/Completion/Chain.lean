import Mathlib.Data.List.Forall2
import Critique.Completion.Chain
import Critique.Warning

/-!
# What a chain of providers comes to

`generates_first_accepted`: the first provider whose reply is accepted has the last word. The ones
before it are each asked once and leave one warning each, the ones after it are not asked, and
where there is none all are asked in vain. A chain is therefore searched part by part.
-/

namespace Critique.Completion

namespace Chain

variable {chain : Chain} {prompt : Text} {provider : Provider} {fault : Fault} {text : Text}

/-- The provider replies with a text, and `text` is what is accepted of it. -/
def Accepts (chain : Chain) (prompt : Text) (provider : Provider) (text : Text) : Prop :=
  ∃ reply, provider.reply prompt = .text reply ∧ chain.acceptance.check prompt reply = .ok text

/-- Why a provider is passed over. -/
inductive PassesOver (chain : Chain) (prompt : Text) (provider : Provider) : Fault → Prop where
  | fault {fault : Fault} : provider.reply prompt = .fault fault →
      PassesOver chain prompt provider fault
  | silence : provider.reply prompt = .silence →
      PassesOver chain prompt provider (.timeout chain.timeout)
  | unacceptable {reply : Text} {fault : Fault} : provider.reply prompt = .text reply →
      chain.acceptance.check prompt reply = .error fault → PassesOver chain prompt provider fault

/-- No provider of a list is accepted. -/
def PassesOverAll (chain : Chain) (prompt : Text) (providers : List Provider) : Prop :=
  ∀ provider ∈ providers, ∃ fault, chain.PassesOver prompt provider fault

/-- What the log says of a provider that is passed over. -/
def Warns (chain : Chain) (prompt : Text) (provider : Provider) (warning : Warning) : Prop :=
  ∃ fault, chain.PassesOver prompt provider fault ∧ warning = .providerFailed provider.id fault

/-- Asked in order, the provider at `k` is the first whose reply is accepted. -/
structure FirstAccepted (chain : Chain) (prompt : Text) (k : Nat) (provider : Provider)
    (text : Text) : Prop where
  stands : chain.providers[k]? = some provider
  accepted : chain.Accepts prompt provider text
  first : ∀ i < k, ∀ earlier, chain.providers[i]? = some earlier →
    ∀ other, ¬ chain.Accepts prompt earlier other

/-- The chain with other providers. -/
def asking (chain : Chain) (providers : List Provider) : Chain := { chain with providers }

-- ---------------------------------------------------------------------------
-- One provider
-- ---------------------------------------------------------------------------

theorem attempt_of_accepts (h : chain.Accepts prompt provider text) :
    chain.attempt prompt provider = ⟨provider.id, .ok text⟩ := by
  obtain ⟨reply, hr, hc⟩ := h
  simp [attempt, judge, hr, hc]

theorem attempt_of_passesOver (h : chain.PassesOver prompt provider fault) :
    chain.attempt prompt provider = ⟨provider.id, .error fault⟩ := by
  cases h with
  | fault hr => simp [attempt, judge, hr]
  | silence hr => simp [attempt, judge, hr]
  | unacceptable hr hc => simp [attempt, judge, hr, hc]

theorem accepts_or_passesOver (chain : Chain) (prompt : Text) (provider : Provider) :
    (∃ text, chain.Accepts prompt provider text) ∨
      ∃ fault, chain.PassesOver prompt provider fault := by
  cases hr : provider.reply prompt with
  | fault fault => exact .inr ⟨fault, .fault hr⟩
  | silence => exact .inr ⟨_, .silence hr⟩
  | text reply =>
    cases hc : chain.acceptance.check prompt reply with
    | ok text => exact .inl ⟨text, reply, hr, hc⟩
    | error fault => exact .inr ⟨fault, .unacceptable hr hc⟩

theorem passesOver_of_not_accepts (h : ∀ text, ¬ chain.Accepts prompt provider text) :
    ∃ fault, chain.PassesOver prompt provider fault :=
  (accepts_or_passesOver chain prompt provider).resolve_left fun ⟨text, ha⟩ => h text ha

end Chain

/-- An outcome after some attempts in vain. -/
def Outcome.after (attempts : Nat) : Outcome → Outcome
  | .generated text provider => .generated text provider
  | .exhausted more => .exhausted (attempts + more)

namespace Chain

variable {chain : Chain} {prompt : Text} {front back : List Provider}

-- ---------------------------------------------------------------------------
-- Providers passed over
-- ---------------------------------------------------------------------------

/-- All of them are asked, and the search goes on behind them. -/
theorem attemptsOf_append_of_passesOver (back : List Provider)
    (h : chain.PassesOverAll prompt front) :
    chain.attemptsOf prompt (front ++ back) =
      front.map (chain.attempt prompt) ++ chain.attemptsOf prompt back := by
  induction front with
  | nil => rfl
  | cons provider rest ih =>
    obtain ⟨hp, hrest⟩ := List.forall_mem_cons.mp h
    obtain ⟨fault, hp⟩ := hp
    simp [attemptsOf, attempt_of_passesOver hp, ih hrest]

theorem ofAttempts_append_of_passesOver (attempts : List Attempt)
    (h : chain.PassesOverAll prompt front) :
    Outcome.ofAttempts (front.map (chain.attempt prompt) ++ attempts) =
      (Outcome.ofAttempts attempts).after front.length := by
  have hnone : (front.map (chain.attempt prompt)).findSome? Attempt.completion? = none := by
    simp only [List.findSome?_eq_none_iff, List.mem_map, forall_exists_index, and_imp]
    rintro _ provider hm rfl
    obtain ⟨fault, hp⟩ := h provider hm
    simp [attempt_of_passesOver hp, Attempt.completion?]
  simp only [Outcome.ofAttempts, List.findSome?_append, hnone, Option.none_or, List.length_append,
    List.length_map]
  cases attempts.findSome? Attempt.completion? with
  | none => rfl
  | some completion => rfl

theorem attemptsOf_of_passesOver (h : chain.PassesOverAll prompt front) :
    chain.attemptsOf prompt front = front.map (chain.attempt prompt) := by
  simpa [attemptsOf] using attemptsOf_append_of_passesOver [] h

theorem ofAttempts_of_passesOver (h : chain.PassesOverAll prompt front) :
    Outcome.ofAttempts (front.map (chain.attempt prompt)) = .exhausted front.length := by
  simpa [Outcome.ofAttempts, Outcome.after] using ofAttempts_append_of_passesOver [] h

theorem warns_of_passesOver (h : chain.PassesOverAll prompt front) :
    List.Forall₂ (chain.Warns prompt) front
      (Warning.ofAttempts (front.map (chain.attempt prompt))) := by
  induction front with
  | nil => exact .nil
  | cons provider rest ih =>
    obtain ⟨hp, hrest⟩ := List.forall_mem_cons.mp h
    obtain ⟨fault, hp⟩ := hp
    have hw := List.Forall₂.cons ⟨fault, hp, rfl⟩ (ih hrest)
    simpa [Warning.ofAttempts, attempt_of_passesOver hp, Attempt.failure?] using hw

-- ---------------------------------------------------------------------------
-- The first one accepted
-- ---------------------------------------------------------------------------

theorem attemptsOf_of_accepts {provider : Provider} {text : Text} (back : List Provider)
    (h : chain.PassesOverAll prompt front) (ha : chain.Accepts prompt provider text) :
    chain.attemptsOf prompt (front ++ provider :: back) =
      (front ++ [provider]).map (chain.attempt prompt) := by
  rw [attemptsOf_append_of_passesOver _ h]
  simp [attemptsOf, attempt_of_accepts ha]

theorem ofAttempts_of_accepts {provider : Provider} {text : Text}
    (h : chain.PassesOverAll prompt front) (ha : chain.Accepts prompt provider text) :
    Outcome.ofAttempts ((front ++ [provider]).map (chain.attempt prompt)) =
      .generated text provider.id := by
  rw [List.map_append, ofAttempts_append_of_passesOver _ h]
  simp [attempt_of_accepts ha, Outcome.ofAttempts, Attempt.completion?, Outcome.after]

theorem warnings_of_accepts {provider : Provider} {text : Text}
    (ha : chain.Accepts prompt provider text) :
    Warning.ofAttempts ((front ++ [provider]).map (chain.attempt prompt)) =
      Warning.ofAttempts (front.map (chain.attempt prompt)) := by
  simp [Warning.ofAttempts, attempt_of_accepts ha, Attempt.failure?]

/-- A search ends at the first provider accepted or passes all of them over. -/
theorem passesOver_or_accepts (chain : Chain) (prompt : Text) (providers : List Provider) :
    chain.PassesOverAll prompt providers ∨
      ∃ front provider back text, providers = front ++ provider :: back ∧
        chain.PassesOverAll prompt front ∧ chain.Accepts prompt provider text := by
  induction providers with
  | nil => exact .inl (by simp [PassesOverAll])
  | cons provider rest ih =>
    rcases accepts_or_passesOver chain prompt provider with ⟨text, ha⟩ | hp
    · exact .inr ⟨[], provider, rest, text, rfl, by simp [PassesOverAll], ha⟩
    rcases ih with hall | ⟨front, other, back, text, rfl, hfront, ha⟩
    · exact .inl (List.forall_mem_cons.mpr ⟨hp, hall⟩)
    · exact .inr ⟨provider :: front, other, back, text, rfl,
        List.forall_mem_cons.mpr ⟨hp, hfront⟩, ha⟩

namespace FirstAccepted

variable {k : Nat} {provider : Provider} {text : Text}

theorem split (h : chain.FirstAccepted prompt k provider text) :
    ∃ front back, chain.providers = front ++ provider :: back ∧
      chain.providers.take k = front ∧ chain.providers.take (k + 1) = front ++ [provider] := by
  obtain ⟨hk, rfl⟩ := List.getElem?_eq_some_iff.mp h.stands
  exact ⟨chain.providers.take k, chain.providers.drop (k + 1), by simp, rfl, by simp⟩

theorem passesOver (h : chain.FirstAccepted prompt k provider text) :
    chain.PassesOverAll prompt (chain.providers.take k) := by
  intro earlier hm
  obtain ⟨i, hi, rfl⟩ := List.mem_take_iff_getElem.mp hm
  have hlt : i < k := by omega
  exact passesOver_of_not_accepts (h.first i hlt _ (List.getElem?_eq_getElem _))

end FirstAccepted

-- ---------------------------------------------------------------------------
-- The search
-- ---------------------------------------------------------------------------

theorem of_firstAccepted {k : Nat} {provider : Provider} {text : Text}
    (h : chain.FirstAccepted prompt k provider text) :
    chain.outcome prompt = .generated text provider.id ∧
      chain.attempts prompt = (chain.providers.take (k + 1)).map (chain.attempt prompt) ∧
      List.Forall₂ (chain.Warns prompt) (chain.providers.take k)
        (Warning.ofAttempts (chain.attempts prompt)) := by
  have hpass := h.passesOver
  obtain ⟨front, back, hall, hfront, hfirst⟩ := h.split
  rw [hfront] at hpass
  have hattempts : chain.attempts prompt = (front ++ [provider]).map (chain.attempt prompt) := by
    rw [attempts, hall]
    exact attemptsOf_of_accepts back hpass h.accepted
  rw [outcome, hattempts, hfirst, hfront]
  refine ⟨ofAttempts_of_accepts hpass h.accepted, rfl, ?_⟩
  rw [warnings_of_accepts h.accepted]
  exact warns_of_passesOver hpass

theorem of_none_accepted
    (h : ∀ provider ∈ chain.providers, ∀ text, ¬ chain.Accepts prompt provider text) :
    chain.outcome prompt = .exhausted chain.providers.length ∧
      chain.attempts prompt = chain.providers.map (chain.attempt prompt) ∧
      List.Forall₂ (chain.Warns prompt) chain.providers
        (Warning.ofAttempts (chain.attempts prompt)) := by
  have hpass := fun provider hm => passesOver_of_not_accepts (h provider hm)
  rw [outcome, attempts, attemptsOf_of_passesOver hpass]
  exact ⟨ofAttempts_of_passesOver hpass, rfl, warns_of_passesOver hpass⟩

/-- What a provider comes to does not depend on the others in its chain. -/
theorem attemptsOf_asking (chain : Chain) (prompt : Text) (others providers : List Provider) :
    (chain.asking others).attemptsOf prompt providers = chain.attemptsOf prompt providers := by
  have hjudge : (chain.asking others).attempt prompt = chain.attempt prompt := by
    funext provider
    unfold attempt judge
    rfl
  induction providers with
  | nil => rfl
  | cons provider rest ih => simp only [attemptsOf, hjudge, ih]

/-- Providers behind a part of the chain are reached when that part is exhausted. -/
theorem asking_append (chain : Chain) (prompt : Text) (front back : List Provider) :
    match (chain.asking front).outcome prompt with
    | .generated text id =>
      (chain.asking (front ++ back)).outcome prompt = .generated text id ∧
        (chain.asking (front ++ back)).attempts prompt = (chain.asking front).attempts prompt
    | .exhausted _ =>
      (chain.asking (front ++ back)).outcome prompt =
          ((chain.asking back).outcome prompt).after front.length ∧
        (chain.asking (front ++ back)).attempts prompt =
          (chain.asking front).attempts prompt ++ (chain.asking back).attempts prompt := by
  have hasking (providers) :
      (chain.asking providers).attempts prompt = chain.attemptsOf prompt providers :=
    attemptsOf_asking chain prompt providers providers
  simp only [outcome, hasking]
  rcases passesOver_or_accepts chain prompt front with h | ⟨early, provider, late, text, rfl, h, ha⟩
  · rw [attemptsOf_of_passesOver h, ofAttempts_of_passesOver h,
      attemptsOf_append_of_passesOver back h]
    exact ⟨ofAttempts_append_of_passesOver _ h, rfl⟩
  · rw [List.append_assoc, List.cons_append, attemptsOf_of_accepts late h ha,
      attemptsOf_of_accepts (late ++ back) h ha, ofAttempts_of_accepts h ha]
    exact ⟨rfl, rfl⟩

/-- The first provider accepted decides, each one before it leaves a warning, and none after it is
asked; a chain behind another is searched when the other is exhausted. -/
theorem generates_first_accepted (chain : Chain) (prompt : Text) :
    (∀ k provider text, chain.FirstAccepted prompt k provider text →
      chain.outcome prompt = .generated text provider.id ∧
      chain.attempts prompt = (chain.providers.take (k + 1)).map (chain.attempt prompt) ∧
      List.Forall₂ (chain.Warns prompt) (chain.providers.take k)
        (Warning.ofAttempts (chain.attempts prompt))) ∧
    ((∀ provider ∈ chain.providers, ∀ text, ¬ chain.Accepts prompt provider text) →
      chain.outcome prompt = .exhausted chain.providers.length ∧
      chain.attempts prompt = chain.providers.map (chain.attempt prompt) ∧
      List.Forall₂ (chain.Warns prompt) chain.providers
        (Warning.ofAttempts (chain.attempts prompt))) ∧
    ∀ front back,
      match (chain.asking front).outcome prompt with
      | .generated text id =>
        (chain.asking (front ++ back)).outcome prompt = .generated text id ∧
          (chain.asking (front ++ back)).attempts prompt = (chain.asking front).attempts prompt
      | .exhausted _ =>
        (chain.asking (front ++ back)).outcome prompt =
            ((chain.asking back).outcome prompt).after front.length ∧
          (chain.asking (front ++ back)).attempts prompt =
            (chain.asking front).attempts prompt ++ (chain.asking back).attempts prompt :=
  ⟨fun _ _ _ => of_firstAccepted, of_none_accepted, asking_append chain prompt⟩

/-- A provider that is too slow, one that says back what it is asked, and two that answer. -/
def mixedChain : Chain where
  providers := [⟨"slow", fun _ => .silence⟩, ⟨"echo", .text⟩, ⟨"good", fun _ => .text "Fine."⟩,
    ⟨"spare", fun _ => .text "Also fine."⟩]
  timeout := .ofSeconds 0
  acceptance := ⟨3, "loading"⟩

theorem mixedChain_generates :
    mixedChain.outcome "Review." = .generated "Fine." "good" ∧
      (mixedChain.attempts "Review.").map (·.provider) = ["slow", "echo", "good"] ∧
      Warning.ofAttempts (mixedChain.attempts "Review.") =
        [.providerFailed "slow" (.timeout ⟨0⟩), .providerFailed "echo" .empty] := by
  have hecho : mixedChain.acceptance.check "Review." "Review." = .error .empty := by decide
  have hfirst : mixedChain.FirstAccepted "Review." 2 ⟨"good", fun _ => .text "Fine."⟩ "Fine." := by
    refine ⟨rfl, ⟨"Fine.", rfl, by decide⟩, ?_⟩
    rintro i hi earlier he other ⟨reply, hr, hc⟩
    match i, hi with
    | 0, _ =>
      cases he
      cases hr
    | 1, _ =>
      cases he
      cases hr
      rw [hecho] at hc
      cases hc
  obtain ⟨hout, hattempts, -⟩ := (generates_first_accepted mixedChain "Review.").1 _ _ _ hfirst
  refine ⟨hout, ?_, ?_⟩ <;> rw [hattempts] <;> rfl

end Chain

end Critique.Completion
