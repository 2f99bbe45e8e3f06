import Critique.Language
import Critique.Proofs.Text.Lower

/-!
# Names of languages

A canonical name is trimmed, in small letters and no other spelling of a name, so it is its own
canonical name (`canonical_canonical`). It does not depend on the blanks around a name or on the
case of its letters.
-/

namespace Critique.Language

open Text (blank lower trim)

variable {raw : Text}

theorem canonical_of_blank (h : blank raw = true) : canonical raw = [] := by
  rw [canonical, Text.blank_iff_trim.mp h]
  rfl

/-- The names that other spellings stand for are trimmed, in small letters and no spellings. -/
theorem aliases_settled : ∀ entry ∈ aliases, trim entry.2 = entry.2 ∧ lower entry.2 = entry.2 ∧
    blank entry.2 = false ∧ unalias entry.2 = entry.2 := by
  decide

theorem unalias_cases (name : Text) : unalias name = name ∧ unalias (unalias name) = name ∨
    ∃ entry ∈ aliases, unalias name = entry.2 := by
  unfold unalias
  cases h : aliases.lookup name with
  | none => exact .inl ⟨rfl, by simp [h]⟩
  | some target =>
    obtain ⟨front, back, heq, -⟩ := List.lookup_eq_some_iff.mp h
    exact .inr ⟨(name, target), by simp [heq], rfl⟩

theorem lower_trim_settled (raw : Text) :
    trim (lower (trim raw)) = lower (trim raw) ∧ lower (lower (trim raw)) = lower (trim raw) := by
  rw [Text.trim_lower, Text.trim_trim]
  exact ⟨rfl, Text.lower_lower _⟩

/-- Nothing is left to do on a canonical name. -/
theorem canonical_settled (raw : Text) : trim (canonical raw) = canonical raw ∧
    lower (canonical raw) = canonical raw ∧ unalias (canonical raw) = canonical raw := by
  rcases unalias_cases (lower (trim raw)) with ⟨hname, hagain⟩ | ⟨entry, hmem, hname⟩
  · obtain ⟨htrim, hlower⟩ := lower_trim_settled raw
    rw [canonical, hname]
    exact ⟨htrim, hlower, hname⟩
  · obtain ⟨htrim, hlower, -, hunalias⟩ := aliases_settled entry hmem
    rw [canonical, hname]
    exact ⟨htrim, hlower, hunalias⟩

theorem canonical_canonical (raw : Text) : canonical (canonical raw) = canonical raw := by
  obtain ⟨htrim, hlower, hunalias⟩ := canonical_settled raw
  rw [canonical, htrim, hlower, hunalias]

theorem canonical_trim (raw : Text) : canonical (trim raw) = canonical raw := by
  rw [canonical, Text.trim_trim, canonical]

theorem canonical_lower (raw : Text) : canonical (lower raw) = canonical raw := by
  rw [canonical, Text.trim_lower, Text.lower_lower, canonical]

theorem canonical_map_toLower (raw : Text) : canonical (raw.map Char.toLower) = canonical raw := by
  rw [canonical, Text.trim_map_toLower, Text.lower_map_toLower, canonical]

/-- A name with blanks around it and other ASCII capitals. -/
theorem canonical_respelt {front other back : Text} (hfront : blank front = true)
    (hback : blank back = true) (h : other.map Char.toLower = raw.map Char.toLower) :
    canonical (front ++ other ++ back) = canonical raw := by
  have htrim : canonical (front ++ other ++ back) = canonical other := by
    rw [canonical, Text.trim_append_blank hback, Text.trim_blank_append hfront, canonical]
  rw [htrim, ← canonical_map_toLower other, h, canonical_map_toLower]

theorem blank_canonical (raw : Text) : blank (canonical raw) = blank raw := by
  cases h : blank raw with
  | true => rw [canonical_of_blank h]; rfl
  | false =>
    rcases unalias_cases (lower (trim raw)) with ⟨hname, -⟩ | ⟨entry, hmem, hname⟩
    · rw [canonical, hname, Text.blank_lower, Text.blank_trim, h]
    · rw [canonical, hname, (aliases_settled entry hmem).2.2.1]

end Critique.Language
