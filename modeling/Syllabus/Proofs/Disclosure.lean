/-
**What errors tell a client.**

Failures of the connection and of stored data carry a text of the library they come from. Told alone, such
a failure hides it. A list that did not follow its child is told with the wording of its cause, and so with
this text.

* `StoreError.Alike`, `CurriculumError.Alike` — errors that differ in such a text at most;
* `ApiError.eq_of_json_eq`, `ApiError.eq_of_response_eq` — JSON and response tell an error in full;
* `ApiError.ofStore_eq_of_alike` — an error of the store hides its text;
* **`errors_hide_texts_iff`** — a client cannot tell two alike errors apart, unless they report such a
  list; `partialSync_tells_text` — two that it can tell apart.
-/

import Syllabus.Api.Error
import Syllabus.Proofs.ReadBack.Json

namespace Syllabus

/-! ### Errors that differ in a text -/

/-- The errors are the same, or differ in the text that they carry from a library. -/
inductive StoreError.Alike : StoreError → StoreError → Prop where
  | refl (error : StoreError) : Alike error error
  | decode (ns : Namespace) (first second : String) : Alike (.decode ns first) (.decode ns second)
  | encode (first second : String) : Alike (.encode first) (.encode second)
  | backend (first second : String) : Alike (.backend first) (.backend second)

/-- The same for the errors of workflows, which carry errors of the store. -/
inductive CurriculumError.Alike : CurriculumError → CurriculumError → Prop where
  | store {first second : StoreError} : first.Alike second → Alike (.store first) (.store second)
  | partialSync (action child parent : String) {first second : StoreError} : first.Alike second →
      Alike (.partialSync action child parent first) (.partialSync action child parent second)
  | notEmpty (kind : RecordKind) (id field : String) (remaining : Nat) :
      Alike (.notEmpty kind id field remaining) (.notEmpty kind id field remaining)

/-- The error reports a list that did not follow its child. -/
def CurriculumError.isPartialSync : CurriculumError → Bool
  | .partialSync _ _ _ _ => true
  | _ => false

/-- The wording of an error tells its text. -/
theorem StoreError.Alike.eq_of_message_eq {first second : StoreError} (alike : first.Alike second)
    (same : first.message = second.message) : first = second := by
  cases alike with
  | refl => rfl
  | decode ns first second =>
    exact congrArg (StoreError.decode ns) ((String.append_right_inj _).mp same)
  | encode first second => exact congrArg StoreError.encode ((String.append_right_inj _).mp same)
  | backend first second => exact congrArg StoreError.backend same

/-! ### Responses -/

/-- Exact values with the same text are the same. -/
theorem Json.eq_of_text_eq {first second : Json} (exact : first.IsExact) (exact' : second.IsExact)
    (same : String.ofList first.text = String.ofList second.text) : first = second := by
  have drafts := congrArg Draft.ofText same
  rw [Draft.ofText_text exact, Draft.ofText_text exact'] at drafts
  have values := congrArg Draft.json? drafts
  rw [json?_draft, json?_draft] at values
  exact Option.some.inj values

namespace ApiError

variable {first second : ApiError}

theorem eq_of_code_eq (kinds : first.code = second.code)
    (messages : first.message = second.message) : first = second := by
  cases first <;> cases second <;> simp_all [code, message]

/-- **JSON tells an error in full.** -/
theorem eq_of_json_eq (same : first.json = second.json) : first = second := by
  simp only [json, Json.object.injEq, List.cons.injEq, Prod.mk.injEq, Json.string.injEq, true_and,
    and_true] at same
  exact eq_of_code_eq same.2 same.1

/-- So does a response, whose body is the text of it. -/
theorem eq_of_response_eq (same : first.response = second.response) : first = second := by
  have exact : ∀ error : ApiError, error.json.IsExact := fun _ => ⟨trivial, trivial, trivial, trivial⟩
  exact eq_of_json_eq
    (Json.eq_of_text_eq (exact first) (exact second) (congrArg Http.Response.body same))

/-- **An error of the store hides its text.** -/
theorem ofStore_eq_of_alike {cause other : StoreError} (alike : cause.Alike other) :
    ofStore cause = ofStore other := by
  cases alike <;> rfl

end ApiError

section Workflow

variable {first second : CurriculumError} (alike : first.Alike second)

include alike

/-- The kind of the error that a client sees depends on no text. -/
theorem ApiError.status_and_code_eq_of_alike :
    (ofCurriculum first).status = (ofCurriculum second).status ∧
      (ofCurriculum first).code = (ofCurriculum second).code := by
  cases alike with
  | store alike =>
    have same := ofStore_eq_of_alike alike
    exact ⟨congrArg status same, congrArg code same⟩
  | partialSync | notEmpty => exact ⟨rfl, rfl⟩

/-- What a client is told of a list that did not follow its child ends with the wording of the cause. -/
theorem ApiError.ofCurriculum_eq_iff : ofCurriculum first = ofCurriculum second ↔
    first = second ∨ first.isPartialSync = false := by
  cases alike with
  | store alike => exact iff_of_true (ofStore_eq_of_alike alike) (.inr rfl)
  | notEmpty => exact iff_of_true rfl (.inl rfl)
  | partialSync action child parent alike =>
    constructor
    · intro same
      have causes := alike.eq_of_message_eq
        ((String.append_right_inj _).mp (ApiError.internalServerError.inj same))
      exact .inl (congrArg (CurriculumError.partialSync action child parent) causes)
    · rintro (same | whole)
      · rw [same]
      · cases whole

end Workflow

/-- **When errors hide the texts of libraries.** Errors of the store that differ in such a text become the
same error for a client. Errors of workflows that do so keep status and code; message, JSON and the whole
response are the same exactly if the errors are, or do not report a list that did not follow its child. -/
theorem errors_hide_texts_iff {first second : CurriculumError} (alike : first.Alike second) :
    (∀ cause other : StoreError, cause.Alike other → ApiError.ofStore cause = ApiError.ofStore other) ∧
    (ApiError.ofCurriculum first).status = (ApiError.ofCurriculum second).status ∧
    (ApiError.ofCurriculum first).code = (ApiError.ofCurriculum second).code ∧
    ((ApiError.ofCurriculum first).message = (ApiError.ofCurriculum second).message ↔
      first = second ∨ first.isPartialSync = false) ∧
    ((ApiError.ofCurriculum first).json = (ApiError.ofCurriculum second).json ↔
      first = second ∨ first.isPartialSync = false) ∧
    ((ApiError.ofCurriculum first).response = (ApiError.ofCurriculum second).response ↔
      first = second ∨ first.isPartialSync = false) := by
  obtain ⟨status, code⟩ := ApiError.status_and_code_eq_of_alike alike
  have told := ApiError.ofCurriculum_eq_iff alike
  refine ⟨fun _ _ => ApiError.ofStore_eq_of_alike, status, code, ?message, ?json, ?response⟩
  case message =>
    rw [← told]
    exact ⟨ApiError.eq_of_code_eq code, congrArg ApiError.message⟩
  case json =>
    rw [← told]
    exact ⟨ApiError.eq_of_json_eq, congrArg ApiError.json⟩
  case response =>
    rw [← told]
    exact ⟨ApiError.eq_of_response_eq, congrArg ApiError.response⟩

/-- The lesson "sets" was created, but not listed, since a value could not be encoded. -/
def unlistedSets (detail : String) : CurriculumError :=
  .partialSync Membership.push.text "sets" "course 'algebra'" (.encode detail)

/-- **A text that reaches clients.** Two errors that differ only in what a library reports of a value are
answered with different messages and bodies; the first tells what that was. -/
theorem partialSync_tells_text :
    (unlistedSets "key contains NUL").Alike (unlistedSets "document too large") ∧
    (ApiError.ofCurriculum (unlistedSets "key contains NUL")).message =
      "sets was written but push on course 'algebra' failed: " ++
        "Failed to encode document: key contains NUL" ∧
    (ApiError.ofCurriculum (unlistedSets "key contains NUL")).message ≠
      (ApiError.ofCurriculum (unlistedSets "document too large")).message ∧
    (ApiError.ofCurriculum (unlistedSets "key contains NUL")).json ≠
      (ApiError.ofCurriculum (unlistedSets "document too large")).json := by
  have differ : (ApiError.ofCurriculum (unlistedSets "key contains NUL")).message ≠
      (ApiError.ofCurriculum (unlistedSets "document too large")).message := by decide
  refine ⟨.partialSync _ _ _ (.encode _ _), by decide, differ, fun same => ?_⟩
  exact differ (congrArg ApiError.message (ApiError.eq_of_json_eq same))

/-- Told alone, the same failure hides the text. -/
theorem errors_hide_texts_iff_of_sets :
    ApiError.ofStore (.encode "key contains NUL") = ApiError.ofStore (.encode "document too large") ∧
      (ApiError.ofCurriculum (unlistedSets "key contains NUL")).status =
        (ApiError.ofCurriculum (unlistedSets "document too large")).status ∧
      (ApiError.ofCurriculum (unlistedSets "key contains NUL")).response ≠
        (ApiError.ofCurriculum (unlistedSets "document too large")).response := by
  have alike : (unlistedSets "key contains NUL").Alike (unlistedSets "document too large") :=
    .partialSync _ _ _ (.encode _ _)
  obtain ⟨hides, status, _, _, _, response⟩ := errors_hide_texts_iff alike
  refine ⟨hides _ _ (.encode _ _), status, fun same => ?_⟩
  rcases response.mp same with equal | whole
  · exact absurd equal (by decide)
  · cases whole

end Syllabus
