import Critique.Completion.Endpoint
import Critique.Proofs.Text.Casing
import Critique.Proofs.Text.Parts

/-!
# What a reply says

The status of a reply is looked at first, then the record in its body: a completion there counts
before an error does, and an error that speaks of loading before any other. `decodeReply_iff`: the
result of every reply, however its body is read as JSON.
-/

namespace Critique

variable {parse? : Text → Option Json} {status : Nat} {body e t : Text} {value record : Json}
  {result : Except Completion.Fault Text}

namespace Json

/-- Neither an array nor an object. -/
inductive IsScalar : Json → Prop where
  | null : IsScalar .null
  | bool (value : Bool) : IsScalar (.bool value)
  | number (literal : Text) : IsScalar (.number literal)
  | string (value : Text) : IsScalar (.string value)

/-- An object with a string under a key. -/
def HasText (value : Json) (key t : Text) : Prop :=
  ∃ members, value = .object members ∧ members.lookup key = some (.string t)

theorem text?_eq_some_iff : value.text? = some t ↔ value = .string t := by
  cases value <;> simp [text?]

theorem hasText_iff {key : Text} :
    (value.get? key).bind text? = some t ↔ value.HasText key t := by
  simp only [Option.bind_eq_some_iff, text?_eq_some_iff, HasText]
  cases value <;> simp [get?]

theorem not_hasText_iff {key : Text} :
    (value.get? key).bind text? = none ↔ ∀ t, ¬ value.HasText key t := by
  simp only [Option.eq_none_iff_forall_ne_some, ne_eq, hasText_iff]

end Json

namespace Completion

-- ---------------------------------------------------------------------------
-- Parts of a reply
-- ---------------------------------------------------------------------------

/-- What is shown of a text: the whole of it, or the start with three dots if it is too long. -/
inductive IsCut : (t cut : Text) → Prop where
  | whole {t : Text} : t.length ≤ 200 → IsCut t t
  | dotted {shown rest : Text} : shown.length = 200 → rest ≠ [] →
      IsCut (shown ++ rest) (shown ++ "...".toList)

theorem isCut_iff {cut : Text} : IsCut t cut ↔ cut = Text.truncate longestError t := by
  constructor
  · rintro (hshort | @⟨shown, rest, hshown, hrest⟩)
    · exact (if_neg (Nat.not_lt.mpr hshort)).symm
    · have hlong : longestError < (shown ++ rest).length := by
        rw [List.length_append, hshown]
        exact Nat.lt_add_of_pos_right (List.length_pos_iff.mpr hrest)
      rw [Text.truncate, if_pos hlong, longestError, List.take_left' hshown]
  · rintro rfl
    unfold Text.truncate longestError
    split
    case isTrue hlong =>
      have hrest : t.drop 200 ≠ [] := by
        rw [ne_eq, List.drop_eq_nil_iff]
        exact Nat.not_le.mpr hlong
      have hcut := IsCut.dotted (List.length_take_of_le (Nat.le_of_lt hlong)) hrest
      rwa [List.take_append_drop] at hcut
    case isFalse hshort => exact .whole (Nat.not_lt.mp hshort)

/-- The text has the word in it, in small letters or capitals. -/
def MentionsLoading (t : Text) : Prop := "loading".toList <:+: t.map Char.toLower

theorem mentionsLoading_iff : Text.contains "loading" (Text.lower e) = true ↔ MentionsLoading e :=
  Text.contains_iff.trans (Text.infix_lower_iff (by decide) e)

/-- The record of a reply is an object, or the first item of an array. -/
inductive IsRecord : (value record : Json) → Prop where
  | object (members : List (Text × Json)) : IsRecord (.object members) (.object members)
  | first (record : Json) (items : List Json) : IsRecord (.array (record :: items)) record

theorem isRecord_iff : IsRecord value record ↔ record? value = some record := by
  constructor
  · rintro (_ | _) <;> rfl
  · intro h
    cases value with
    | array items =>
      obtain ⟨items, rfl⟩ := List.head?_eq_some_iff.mp h
      exact .first record items
    | object members =>
      cases h
      exact .object members
    | _ => cases h

-- ---------------------------------------------------------------------------
-- The result
-- ---------------------------------------------------------------------------

variable {read? : Option Json}

/-- What was read has a record with a completion. -/
def Completes (read? : Option Json) (t : Text) : Prop :=
  ∃ value record, read? = some value ∧ IsRecord value record ∧ record.HasText "generated_text" t

/-- What was read has a record with an error and no completion. -/
def Complains (read? : Option Json) (e : Text) : Prop :=
  ∃ value record, read? = some value ∧ IsRecord value record ∧
    (∀ t, ¬ record.HasText "generated_text" t) ∧ record.HasText "error" e

/-- What comes of a body by what was read there. -/
inductive Says (read? : Option Json) : Except Fault Text → Prop where
  | text {t : Text} : Completes read? t → Says read? (.ok t)
  | loading {e : Text} : Complains read? e → MentionsLoading e → Says read? (.error .loading)
  | error {e cut : Text} : Complains read? e → ¬ MentionsLoading e → IsCut e cut →
      Says read? (.error (.malformed cut))
  | wordless {value record : Json} : read? = some value → IsRecord value record →
      (∀ t, ¬ record.HasText "generated_text" t) → (∀ e, ¬ record.HasText "error" e) →
      Says read? (.error (.malformed "missing generated_text"))
  | recordless {value : Json} : read? = some value → (∀ record, ¬ IsRecord value record) →
      Says read? (.error (.malformed "no completion in response"))
  | unreadable : read? = none → Says read? (.error .unreadable)

theorem says_completionOf (value : Json) : Says (some value) (completionOf value) := by
  unfold completionOf
  cases hrecord : record? value with
  | none =>
    refine .recordless rfl fun record h => ?_
    cases hrecord.symm.trans (isRecord_iff.mp h)
  | some record =>
    have hr := isRecord_iff.mpr hrecord
    dsimp only
    cases htext : (record.get? "generated_text").bind Json.text? with
    | some t => exact .text ⟨value, record, rfl, hr, Json.hasText_iff.mp htext⟩
    | none =>
      have hnone := Json.not_hasText_iff.mp htext
      cases herror : (record.get? "error").bind Json.text? with
      | none => exact .wordless rfl hr hnone (Json.not_hasText_iff.mp herror)
      | some e =>
        have he : Complains (some value) e :=
          ⟨value, record, rfl, hr, hnone, Json.hasText_iff.mp herror⟩
        by_cases hloading : MentionsLoading e
        · rw [errorFault, if_pos (mentionsLoading_iff.mpr hloading)]
          exact .loading he hloading
        · rw [errorFault, if_neg (mt mentionsLoading_iff.mp hloading)]
          exact .error he hloading (isCut_iff.mpr rfl)

theorem Completes.completionOf_eq (h : Completes (some value) t) : completionOf value = .ok t := by
  obtain ⟨_, record, ⟨⟩, hr, ht⟩ := h
  simp only [completionOf, isRecord_iff.mp hr, Json.hasText_iff.mpr ht]

theorem Complains.completionOf_eq (h : Complains (some value) e) :
    completionOf value = .error (errorFault (some e)) := by
  obtain ⟨_, record, ⟨⟩, hr, hnone, he⟩ := h
  simp only [completionOf, isRecord_iff.mp hr, Json.not_hasText_iff.mpr hnone,
    Json.hasText_iff.mpr he]

theorem Says.completionOf_eq (h : Says (some value) result) : completionOf value = result := by
  cases h with
  | text ht => exact ht.completionOf_eq
  | loading he hloading =>
    rw [he.completionOf_eq, errorFault, if_pos (mentionsLoading_iff.mpr hloading)]
  | error he hloading hcut =>
    rw [he.completionOf_eq, errorFault, if_neg (mt mentionsLoading_iff.mp hloading),
      isCut_iff.mp hcut]
  | wordless hread hr hnone herror =>
    cases hread
    simp only [completionOf, isRecord_iff.mp hr, Json.not_hasText_iff.mpr hnone,
      Json.not_hasText_iff.mpr herror, errorFault]
  | recordless hread hnone =>
    cases hread
    have hrecord : record? value = none :=
      Option.eq_none_iff_forall_ne_some.mpr fun record h => hnone record (isRecord_iff.mpr h)
    simp only [completionOf, hrecord]
  | unreadable hread => cases hread

theorem Says.eq_unreadable (h : Says none result) : result = .error .unreadable := by
  cases h with
  | text ht =>
    obtain ⟨_, _, hread, _⟩ := ht
    cases hread
  | loading he | error he =>
    obtain ⟨_, _, hread, _⟩ := he
    cases hread
  | wordless hread | recordless hread => cases hread
  | unreadable => rfl

theorem decodeReply_iff_status (h : ¬ (200 ≤ status ∧ status < 300)) :
    decodeReply parse? status body = result ↔
      ∃ cut, IsCut body cut ∧ result = .error (.status status cut) := by
  have hstatus : isSuccess status = false := by
    rw [← Bool.not_eq_true]
    simpa [isSuccess] using h
  rw [decodeReply, hstatus]
  simp [isCut_iff, eq_comm]

theorem decodeReply_iff (h : 200 ≤ status ∧ status < 300) :
    decodeReply parse? status body = result ↔ Says (parse? body) result := by
  have hstatus : isSuccess status = true := by simpa [isSuccess] using h
  rw [decodeReply, hstatus]
  cases parse? body with
  | none => exact ⟨fun h => h ▸ .unreadable rfl, fun h => h.eq_unreadable.symm⟩
  | some value => exact ⟨fun h => h ▸ says_completionOf value, Says.completionOf_eq⟩

/-- A fault of a reply that came through and says nothing that the program looks for. -/
inductive IsMalformed : Fault → Prop where
  | unreadable : IsMalformed .unreadable
  | malformed (reason : Text) : IsMalformed (.malformed reason)

theorem Says.exists_malformed (h : Says read? result) (htext : ∀ t, ¬ Completes read? t)
    (herror : ∀ e, Complains read? e → ¬ MentionsLoading e) :
    ∃ fault, IsMalformed fault ∧ result = .error fault := by
  cases h with
  | text ht => exact absurd ht (htext _)
  | loading he hloading => exact absurd hloading (herror _ he)
  | error | wordless | recordless => exact ⟨_, .malformed _, rfl⟩
  | unreadable => exact ⟨_, .unreadable, rfl⟩

/-- What comes of every reply, however its body is read as JSON. -/
theorem reply_decoded (parse? : Text → Option Json) (status : Nat) (body : Text) :
    (¬ (200 ≤ status ∧ status < 300) → ∃ cut, IsCut body cut ∧
      decodeReply parse? status body = .error (.status status cut)) ∧
    (200 ≤ status ∧ status < 300 →
      (∀ t, decodeReply parse? status body = .ok t ↔ Completes (parse? body) t) ∧
      (decodeReply parse? status body = .error .loading ↔
        ∃ e, Complains (parse? body) e ∧ MentionsLoading e) ∧
      (∀ e, Complains (parse? body) e → ¬ MentionsLoading e → ∃ cut, IsCut e cut ∧
        decodeReply parse? status body = .error (.malformed cut)) ∧
      ((∀ t, ¬ Completes (parse? body) t) →
        (∀ e, Complains (parse? body) e → ¬ MentionsLoading e) →
        ∃ fault, IsMalformed fault ∧ decodeReply parse? status body = .error fault) ∧
      ((∀ value, parse? body = some value → value = .array [] ∨ value.IsScalar) →
        ∃ fault, IsMalformed fault ∧ decodeReply parse? status body = .error fault) ∧
      ∀ t members items, members.lookup "generated_text".toList = some (.string t) →
        parse? body = some (.object members) ∨
          parse? body = some (.array (.object members :: items)) →
        decodeReply parse? status body = .ok t) := by
  refine ⟨fun h => ?_, fun h => ?_⟩
  · exact (decodeReply_iff_status h).mp rfl
  have hsays : Says (parse? body) (decodeReply parse? status body) := (decodeReply_iff h).mp rfl
  have htext : ∀ t, decodeReply parse? status body = .ok t ↔ Completes (parse? body) t := by
    intro t
    rw [decodeReply_iff h]
    refine ⟨fun hok => ?_, .text⟩
    cases hok with
    | text ht => exact ht
  refine ⟨htext, ?loads, ?complains, hsays.exists_malformed, ?unusable, ?completes⟩
  case loads =>
    rw [decodeReply_iff h]
    refine ⟨fun hloads => ?_, fun ⟨e, he, hloading⟩ => .loading he hloading⟩
    cases hloads with
    | loading he hloading => exact ⟨_, he, hloading⟩
  case complains =>
    intro e he hloading
    exact ⟨_, isCut_iff.mpr rfl, (decodeReply_iff h).mpr (.error he hloading (isCut_iff.mpr rfl))⟩
  case unusable =>
    intro hvalue
    have hnone : ∀ value record, parse? body = some value → ¬ IsRecord value record := by
      intro value record hread hrecord
      rcases hvalue value hread with rfl | hscalar
      · cases hrecord
      · cases hscalar <;> cases hrecord
    refine hsays.exists_malformed ?_ ?_
    · rintro t ⟨value, record, hread, hrecord, -⟩
      exact hnone value record hread hrecord
    · rintro e ⟨value, record, hread, hrecord, -⟩
      exact absurd hrecord (hnone value record hread)
  case completes =>
    rintro t members items ht (hbody | hbody)
    · exact (htext t).mpr ⟨_, _, hbody, .object members, members, rfl, ht⟩
    · exact (htext t).mpr ⟨_, _, hbody, .first _ items, members, rfl, ht⟩

/-- A completion beside an error. -/
def replyDone : Text :=
  "[\x7b\"error\": \"loading\", \"generated_text\": \"done\"\x7d, null]"

/-- An error alone. -/
def replyLoading : Text := "\x7b\"error\": \"Model is LOADING\"\x7d"

theorem reply_decoded_spelt :
    decodeReply parseText? 200 replyDone = .ok "done".toList ∧
    decodeReply parseText? 200 replyLoading = .error .loading ∧
    ∃ cut, IsCut "busy" cut ∧ decodeReply parseText? 503 "busy" = .error (.status 503 cut) := by
  refine ⟨?done, ?loading, (reply_decoded parseText? 503 "busy").1 (by decide)⟩
  case done =>
    obtain ⟨-, -, -, -, -, hcompletes⟩ := (reply_decoded parseText? 200 replyDone).2 (by decide)
    exact hcompletes "done" [("error".toList, .string "loading".toList),
      ("generated_text".toList, .string "done".toList)] [.null] rfl (.inr rfl)
  case loading =>
    obtain ⟨-, hloads, -⟩ := (reply_decoded parseText? 200 replyLoading).2 (by decide)
    have herror : Complains (parseText? replyLoading) "Model is LOADING" := by
      refine ⟨_, _, rfl, .object [("error".toList, .string "Model is LOADING".toList)], ?_,
        _, rfl, rfl⟩
      rintro t ⟨_, ⟨⟩, ht⟩
      cases ht
    exact hloads.mpr ⟨_, herror, "model is ".toList, [], by decide⟩

end Completion

end Critique
