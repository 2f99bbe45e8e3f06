import Critique.FileAssessment
import Critique.Proofs.Language
import Critique.Proofs.Service.Ladder

/-!
# Names of languages in requests

`canonical_stable`: a canonical name is its own canonical name, blanks around a name and the case of
its ASCII letters do not matter, and code is assessed and answered under any name of a language as
under the canonical one.
-/

namespace Critique

variable {kind : Kind}

theorem nonBlank_canonical (raw : Text) :
    nonBlank (some (Language.canonical raw)) =
      (nonBlank (some raw)).map Language.canonical := by
  simp only [nonBlank, Option.filter, Language.blank_canonical]
  split <;> rfl

theorem Submission.ofRequest_canonical (max : Nat) (code : Option Text) (raw : Text) :
    ofRequest max ⟨code, some (Language.canonical raw)⟩ = ofRequest max ⟨code, some raw⟩ := by
  rw [ofRequest, ofRequest, nonBlank_canonical]
  cases nonBlank code with
  | none => rfl
  | some code =>
    cases nonBlank (some raw) with
    | none => rfl
    | some raw => simp only [Option.map_some, Language.canonical_canonical]

namespace Service

theorem answerCode_canonical (service : Service) (kind : Kind) (code : Option Text) (raw : Text) :
    service.answerCode kind ⟨code, some (Language.canonical raw)⟩ =
      service.answerCode kind ⟨code, some raw⟩ := by
  rw [answerCode, Submission.ofRequest_canonical, answerCode]

theorem answer_canonical (service : Service) {code : Option Text} {raw : Text}
    {http named : Http.Request} (h : Sends http kind ⟨code, some raw⟩)
    (hnamed : Sends named kind ⟨code, some (Language.canonical raw)⟩) :
    service.answer named = service.answer http := by
  rw [answer_of_sends hnamed, answer_of_sends h, answerCode_canonical]

end Service

/-- The canonical name is settled: taking it again, trimming it and making it small change nothing,
and neither do blanks around the name or other ASCII capitals in it. So code is assessed, and a
request for any kind of analysis answered, alike under any name of a language and under the
canonical one. -/
theorem Language.canonical_stable (raw : Text) :
    let name := Language.canonical raw
    canonical name = name ∧ Text.trim name = name ∧ Text.lower name = name ∧
    canonical (Text.trim raw) = name ∧ canonical (Text.lower raw) = name ∧
    (∀ front other back, Text.blank front = true → Text.blank back = true →
      other.map Char.toLower = raw.map Char.toLower → canonical (front ++ other ++ back) = name) ∧
    (∀ (catalog : Catalog) (kind : Kind) (code : Text),
      catalog.assessNamed kind code name = catalog.assessNamed kind code raw) ∧
    ∀ (service : Service) (kind : Kind) (code : Option Text),
      service.answerCode kind ⟨code, some name⟩ = service.answerCode kind ⟨code, some raw⟩ ∧
      ∀ http named, Service.Sends http kind ⟨code, some raw⟩ →
        Service.Sends named kind ⟨code, some name⟩ →
          service.answer named = service.answer http := by
  intro name
  obtain ⟨htrim, hlower, -⟩ := canonical_settled raw
  refine ⟨canonical_canonical raw, htrim, hlower, canonical_trim raw, canonical_lower raw,
    fun front other back hfront hback h => canonical_respelt hfront hback h, ?_, ?_⟩
  · intro catalog kind code
    rw [Catalog.assessNamed, canonical_canonical, Catalog.assessNamed]
  · intro service kind code
    exact ⟨service.answerCode_canonical kind code raw,
      fun http named h hnamed => service.answer_canonical h hnamed⟩

/-- The name has a no-break space behind it, and a service is asked under both names. -/
theorem Language.canonical_stable_js :
    let other : Text := "\t" ++ "jS" ++ "\u00a0"
    canonical "JS" = "javascript" ∧ Text.blank "\t" = true ∧ Text.blank "\u00a0" = true ∧
    ("jS" : Text).map Char.toLower = ("JS" : Text).map Char.toLower ∧
    canonical other = "javascript" ∧
    Service.fragile.answer (Service.submitted "javascript") =
      Service.fragile.answer (Service.submitted "JS") := by
  intro other
  have hname : canonical "JS" = "javascript" := by decide
  obtain ⟨-, -, -, -, -, hrespelt, -, hservice⟩ := canonical_stable "JS"
  have hother : canonical other = "javascript" :=
    (hrespelt "\t" "jS" "\u00a0" (by decide) (by decide) (by decide)).trans hname
  refine ⟨hname, by decide, by decide, by decide, hother, ?_⟩
  refine (hservice .fragile .review (some "x = 1")).2 _ _ ⟨rfl, rfl, rfl⟩ ?_
  rw [hname]
  exact ⟨rfl, rfl, rfl⟩

end Critique
