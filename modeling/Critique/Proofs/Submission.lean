import Critique.Submission.Basic

/-!
# Requests that are accepted

A request is accepted when neither of its fields is missing or blank and the code is not too long.
The fields are looked at before the length of the code.
-/

namespace Critique

/-- A field that is missing or blank. -/
def Unfilled (field : Option Text) : Prop := ∀ t, field = some t → Text.blank t = true

/-- A request with both fields, neither of them blank. -/
structure CodeRequest.Filled (request : CodeRequest) (code language : Text) : Prop where
  hasCode : request.code = some code
  hasLanguage : request.language = some language
  codeFilled : Text.blank code = false
  languageFilled : Text.blank language = false

theorem nonBlank_of_unfilled {field : Option Text} (h : Unfilled field) :
    nonBlank field = none := by
  cases field with
  | none => rfl
  | some t => simp [nonBlank, h t rfl]

theorem nonBlank_of_not_blank {t : Text} (h : Text.blank t = false) :
    nonBlank (some t) = some t := by
  simp [nonBlank, h]

theorem unfilled_or_filled (field : Option Text) :
    Unfilled field ∨ ∃ t, field = some t ∧ Text.blank t = false := by
  cases field with
  | none => exact .inl (by simp [Unfilled])
  | some t =>
    cases hb : Text.blank t with
    | true => exact .inl (by simp [Unfilled, hb])
    | false => exact .inr ⟨t, rfl, hb⟩

namespace Submission

variable {request : CodeRequest} {max : Nat} {code language : Text} {submission : Submission}

theorem ofRequest_of_unfilled (max : Nat) (h : Unfilled request.code ∨ Unfilled request.language) :
    ofRequest max request = .error (.missing "Code and language") := by
  unfold ofRequest
  rcases h with h | h
  · rw [nonBlank_of_unfilled h]
  · rw [nonBlank_of_unfilled h]
    cases nonBlank request.code <;> rfl

theorem ofRequest_of_filled (h : request.Filled code language) :
    ofRequest max request =
      if max < code.length then .error (.tooLong code.length max)
      else .ok ⟨code, Language.canonical language⟩ := by
  rw [ofRequest, h.hasCode, h.hasLanguage, nonBlank_of_not_blank h.codeFilled,
    nonBlank_of_not_blank h.languageFilled]

theorem filled_of_ofRequest (h : ofRequest max request = .ok submission) :
    ∃ raw, request.Filled submission.code raw ∧ submission.language = Language.canonical raw := by
  rcases unfilled_or_filled request.code with hu | ⟨code, hc, hcs⟩
  · simp [ofRequest_of_unfilled max (.inl hu)] at h
  rcases unfilled_or_filled request.language with hu | ⟨raw, hl, hls⟩
  · simp [ofRequest_of_unfilled max (.inr hu)] at h
  have hs : request.Filled code raw := ⟨hc, hl, hcs, hls⟩
  rw [ofRequest_of_filled hs] at h
  split at h
  · cases h
  · cases h
    exact ⟨raw, hs, rfl⟩

end Submission

end Critique
