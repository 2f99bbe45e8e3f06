import Critique.Listing
import Critique.Proofs.Service.Ladder

/-!
# Listings and answers

`listing_eq_analysis`: a file listed as a report and the answer of the service to a request with the
same code say the same, once no provider is accepted. Both come from the same assessment, for a
language is known by its canonical name however it is given, and what a file extension tells is such
a name already.
-/

namespace Critique

-- ---------------------------------------------------------------------------
-- Rules that come to a decision
-- ---------------------------------------------------------------------------

namespace Catalog

theorem all_decide : ∀ rule ∈ all, ∀ code metrics, rule.matcher.verdict code metrics ≠ none := by
  unfold all
  repeat' refine List.forall_mem_cons.mpr ⟨fun _ _ => Option.some_ne_none _, ?_⟩
  exact List.forall_mem_nil _

/-- No rule of the catalog breaks down, whichever are left out. -/
theorem not_breaksDown_without (disabled : List Text) (kind : Kind) (code language : Text) :
    ¬ (all.without disabled).BreaksDown kind code language := by
  rintro ⟨rule, hrule, -, hnone⟩
  exact all_decide rule (List.mem_of_mem_filter hrule) _ _ hnone

end Catalog

-- ---------------------------------------------------------------------------
-- Languages told by an extension
-- ---------------------------------------------------------------------------

namespace Language

/-- The names that extensions stand for are canonical. -/
theorem canonical_extensions :
    ∀ entry ∈ extensions, canonical entry.2 = entry.2 ∧ Text.blank entry.2 = false := by
  decide +kernel

theorem canonical_of_ofPath? {path language : Text} (h : ofPath? path = some language) :
    canonical language = language ∧ Text.blank language = false := by
  obtain ⟨extension, -, h⟩ := Option.bind_eq_some_iff.mp h
  obtain ⟨before, after, he, -⟩ := List.lookup_eq_some_iff.mp h
  have hmem : (extension.map Char.toLower, language) ∈ extensions := by simp [he]
  exact canonical_extensions _ hmem

/-- The language of a file is given: it is named, or the extension tells it. -/
def Given (named : Option Text) (path raw : Text) : Prop :=
  named = some raw ∨ named = none ∧ ofPath? path = some raw

theorem Given.choose {named : Option Text} {path raw : Text} (h : Given named path raw) :
    choose named path = some (canonical raw) := by
  rcases h with rfl | ⟨rfl, hp⟩
  · rfl
  · rw [Language.choose, hp, (canonical_of_ofPath? hp).1]

end Language

-- ---------------------------------------------------------------------------
-- The two sides
-- ---------------------------------------------------------------------------

variable {catalog : Catalog} {kind : Kind} {tree : Tree} {folder path code raw : Text}

theorem Catalog.assessFile_of_read {named : Option Text} (hl : Language.Given named path raw)
    (hread : tree.read folder path = .ok code) :
    catalog.assessFile kind tree folder named path =
      .ok ⟨path, Language.canonical raw, catalog.assess kind code (Language.canonical raw)⟩ := by
  rw [assessFile, hl.choose]
  simp only [hread]

theorem Listing.markdown_eq (colours : Bool) (kind : Kind) (file : FileAssessment) :
    Listing.file colours kind .markdown file =
      Text.line ("<!-- " ++ file.path ++ " -->") ++
        (Report.heuristic kind file.language file.assessment).body := rfl

namespace Service

/-- No provider for a kind of analysis gives an acceptable completion for the code. -/
def NoneAccepted (service : Service) (kind : Kind) (code language : Text) : Prop :=
  let chain := service.chains.ofKind kind
  let prompt := Prompt.ofCode kind language code (service.catalog.assess kind code language)
  ∀ provider ∈ chain.providers, ∀ text, ¬ chain.Accepts prompt provider text

variable {service : Service}

theorem report_of_noneAccepted {language : Text}
    (hb : ¬ service.catalog.BreaksDown kind code language)
    (h : service.NoneAccepted kind code language) :
    (service.report kind ⟨code, language⟩).1 =
      .heuristic kind language (service.catalog.assess kind code language) := by
  rw [report_of_not_breaksDown hb]
  simp only
  rw [(Completion.Chain.of_none_accepted h).1]
  rfl

theorem member?_analysis (kind : Kind) (report : Report) (headers : List Http.Header)
    (attempts : List Completion.Attempt) :
    (Answer.adding headers ⟨.json 200 (report.toJson kind), attempts⟩).member? "analysis" =
      some (.string report.body) := by
  cases kind <;> rfl

theorem answerCode_of_noneAccepted (headers : List Http.Header)
    (hb : ¬ service.catalog.BreaksDown kind code (Language.canonical raw))
    (hcode : Text.blank code = false) (hraw : Text.blank raw = false)
    (hshort : code.length ≤ service.limits.maxCodeChars)
    (h : service.NoneAccepted kind code (Language.canonical raw)) :
    ((service.answerCode kind ⟨some code, some raw⟩).adding headers).member? "analysis" =
      some (.string (Report.heuristic kind (Language.canonical raw)
        (service.catalog.assess kind code (Language.canonical raw))).body) := by
  rw [answerCode_of_filled ⟨rfl, rfl, hcode, hraw⟩ hshort, ← report_of_noneAccepted hb h]
  exact member?_analysis kind _ _ _

/-- A file listed as a report under some disabled rules says behind its path what the service says
of the same code in the same language, when none of its providers is accepted. -/
theorem listing_eq_analysis (disabled : List Text) (named : Option Text) (raw : Text)
    (hcatalog : service.catalog = Catalog.all.without disabled)
    (hcode : Text.blank code = false) (hshort : code.length ≤ service.limits.maxCodeChars)
    (hraw : Text.blank raw = false) (hlanguage : Language.Given named path raw)
    (hread : tree.read folder path = .ok code) (kind : Kind)
    (hnone : service.NoneAccepted kind code (Language.canonical raw)) (colours : Bool) :
    ∃ file analysis,
      (Catalog.all.without disabled).assessFile kind tree folder named path = .ok file ∧
      Listing.file colours kind .markdown file =
        Text.line ("<!-- " ++ path ++ " -->") ++ analysis ∧
      (service.answerCode kind ⟨some code, some raw⟩).member? "analysis" =
        some (.string analysis) ∧
      ∀ http, Sends http kind ⟨some code, some raw⟩ →
        (service.answer http).response.status = 200 ∧
        (service.answer http).member? "analysis" = some (.string analysis) := by
  have hb : ¬ service.catalog.BreaksDown kind code (Language.canonical raw) :=
    hcatalog ▸ Catalog.not_breaksDown_without disabled kind code _
  have hanswer := fun headers => answerCode_of_noneAccepted headers hb hcode hraw hshort hnone
  refine ⟨_, _, Catalog.assessFile_of_read hlanguage hread, Listing.markdown_eq colours kind _,
    ?_, ?_⟩
  · rw [← hcatalog]
    exact hanswer []
  · intro http hsends
    rw [answer_of_sends hsends, ← hcatalog]
    refine ⟨?_, hanswer _⟩
    rw [answerCode_of_filled ⟨rfl, rfl, hcode, hraw⟩ hshort]
    rfl

/-- A service with a rule left out and one provider, which never answers. -/
def deserted : Service where
  catalog := Catalog.all.without ["print_debugging"]
  chains := { Chains.empty with review := ⟨[⟨"gone", fun _ => .silence⟩], .ofSeconds 1, .default⟩ }
  limits := ⟨5⟩
  server := .default

theorem deserted_noneAccepted (code language : Text) :
    deserted.NoneAccepted .review code language := by
  rintro provider hp text ⟨reply, hr, -⟩
  cases List.mem_singleton.mp hp
  cases hr

/-- The file is read as Python whether that is named or told by its extension. -/
theorem deserted_listing_eq_analysis :
    let tree : Tree := .folder [("a.py", .file (Utf8.encode "x = 1"))]
    let catalog := Catalog.all.without ["print_debugging"]
    tree.read [] "a.py" = .ok "x = 1" ∧
    ∀ raw named, (raw, named) ∈ [(("Py" : Text), some ("Py" : Text)), ("python", none)] →
      ∃ file analysis, catalog.assessFile .review tree [] named "a.py" = .ok file ∧
        Listing.file false .review .markdown file = "<!-- a.py -->\n" ++ analysis ∧
        (deserted.answer (submitted raw)).member? "analysis" = some (.string analysis) := by
  intro tree catalog
  have hread : tree.read [] "a.py" = .ok "x = 1" := by rfl
  refine ⟨hread, ?_⟩
  simp only [List.mem_cons, List.not_mem_nil, or_false, Prod.mk.injEq]
  rintro raw named (⟨rfl, rfl⟩ | ⟨rfl, rfl⟩)
  · obtain ⟨file, analysis, hfile, hlisting, -, hanswer⟩ :=
      listing_eq_analysis ["print_debugging"] (some "Py") "Py" (rfl : deserted.catalog = _)
        (by decide) (by decide) (by decide) (.inl rfl) hread .review (deserted_noneAccepted _ _)
        false
    exact ⟨file, analysis, hfile, hlisting, (hanswer _ ⟨rfl, rfl, rfl⟩).2⟩
  · obtain ⟨file, analysis, hfile, hlisting, -, hanswer⟩ :=
      listing_eq_analysis ["print_debugging"] none "python" (rfl : deserted.catalog = _)
        (by decide) (by decide) (by decide) (.inr ⟨rfl, by decide⟩) hread .review
        (deserted_noneAccepted _ _) false
    exact ⟨file, analysis, hfile, hlisting, (hanswer _ ⟨rfl, rfl, rfl⟩).2⟩

end Service

end Critique
