/-
**Refusals.**

An error that a client can do something about has a status below 500, and does not tell of a version that
was overwritten in the meantime. All that the operations on records can fail with on a store with a ledger
is of this kind.

* `Http.Response.ReportsConflict` — the body tells of a version that was overwritten;
* `ApiError.IsRefusal` — an error that a client can do something about;
* `IsRefusal.not_reportsConflict`, `Reply.not_reportsConflict_withStatus` — neither its text nor that of a
  success is taken for such a report;
* `Body.eq_invalidJson_of_decode` — what a client is told of a body;
* **`Ledger.isRefusal_of_perform`** — the operations on records fail with refusals only.
-/

import Syllabus.Api.Handler
import Syllabus.Proofs.Refinement

namespace Syllabus

/-! ### Texts -/

namespace Text

/-- The text begins with the character. -/
def Begins (first : Char) (text : String) : Prop :=
  ∃ rest, text.toList = first :: rest

theorem Begins.append {first : Char} {text : String} (begins : Begins first text) (more : String) :
    Begins first (text ++ more) := by
  obtain ⟨rest, same⟩ := begins
  exact ⟨rest ++ more.toList, by rw [String.toList_append, same, List.cons_append]⟩

/-- The text is there, and does not begin with a quote. -/
def Unquoted (text : String) : Prop :=
  ∃ first, Begins first text ∧ first ≠ '\''

theorem Unquoted.append {text : String} (unquoted : Unquoted text) (more : String) :
    Unquoted (text ++ more) := by
  obtain ⟨first, begins, plain⟩ := unquoted
  exact ⟨first, begins.append more, plain⟩

end Text

/-- Escaping does not make a quote. -/
theorem Json.escaped_ne {c : Char} (plain : c ≠ '\'') :
    ∃ first rest, escaped c = first :: rest ∧ first ≠ '\'' := by
  unfold escaped
  split
  · exact ⟨_, _, rfl, by decide⟩
  · split
    · exact ⟨_, _, rfl, by decide⟩
    · split
      · exact ⟨_, _, rfl, by decide⟩
      · exact ⟨_, _, rfl, plain⟩

/-! ### Errors that a client can do something about -/

/-- The body tells of a version that was overwritten in the meantime. -/
def Http.Response.ReportsConflict (response : Http.Response) : Prop :=
  ∃ ns id expected,
    response.body = (ApiError.ofStore (.versionConflict ns id expected)).response.body

namespace ApiError

open Text (Unquoted)

/-- The request cannot be met, and the service is not to blame. No such message begins with a quote, as
that of a version conflict does. -/
structure IsRefusal (error : ApiError) : Prop where
  status : error.status < 500
  message : Unquoted error.message

/-- What comes before the message in the body of an error. -/
def opening : List Char :=
  '{' :: (Json.quoted "error".toList ++ ':' :: ((Json.bool true).text ++
    ',' :: (Json.quoted "message".toList ++ [':', '"'])))

theorem toList_body (error : ApiError) : ∃ rest, error.response.body.toList =
    opening ++ (error.message.toList.flatMap Json.escaped ++ rest) := by
  refine ⟨'"' :: ',' :: (Json.quoted "code".toList ++ ':' :: (Json.quoted error.code.toList ++ ['}'])), ?_⟩
  have body : error.response.body.toList = error.json.text := String.toList_ofList
  rw [body]
  simp [json, opening, Json.text, Json.membersText, Json.quoted]

theorem begins_versionConflict (ns : Namespace) (id : String) (expected : Int64) :
    Text.Begins '\'' (ofStore (.versionConflict ns id expected)).message := by
  have quote : Text.Begins '\'' "'" := ⟨[], rfl⟩
  exact (((((quote.append id).append _).append ns.text).append _).append _).append _

/-- **A refusal is told from a version conflict by its text.** -/
theorem IsRefusal.not_reportsConflict {error : ApiError} (refusal : error.IsRefusal) :
    ¬ error.response.ReportsConflict := by
  rintro ⟨ns, id, expected, same⟩
  obtain ⟨rest, here⟩ := toList_body error
  obtain ⟨rest', there⟩ := toList_body (ofStore (.versionConflict ns id expected))
  obtain ⟨first, ⟨message, begins⟩, plain⟩ := refusal.message
  obtain ⟨quoted, begins'⟩ := begins_versionConflict ns id expected
  obtain ⟨c, more, escaped, unquoted⟩ := Json.escaped_ne plain
  have quote : Json.escaped '\'' = ['\''] := by decide
  rw [same, there, List.append_cancel_left_eq, begins, begins', List.flatMap_cons, List.flatMap_cons,
    escaped, quote] at here
  exact unquoted (List.cons.inj here).1.symm

/-- A body with another beginning is not that of an error. -/
theorem not_reportsConflict_of_ne {response : Http.Response}
    (different : response.body.toList.take 3 ≠ opening.take 3) : ¬ response.ReportsConflict := by
  rintro ⟨ns, id, expected, same⟩
  obtain ⟨rest, body⟩ := toList_body (ofStore (.versionConflict ns id expected))
  rw [same, body] at different
  exact different (List.take_append_of_le_length (by decide))

end ApiError

/-- A reply with data is not taken for an error. -/
theorem Reply.not_reportsConflict_withStatus {α : Type} [Codec α] (status : Nat) (data : α) :
    ¬ (withStatus status data).response.ReportsConflict := by
  refine ApiError.not_reportsConflict_of_ne ?_
  have beginning : ∀ data : Json,
      (Codec.text (Json.object [("success", .bool true), ("data", data)])).toList.take 3 =
        ['{', '"', 's'] := by
    intro data
    rw [Codec.text, String.toList_ofList]
    rfl
  unfold response withStatus
  split
  · decide
  · show List.take 3 (Codec.text _).toList ≠ _
    rw [beginning]
    decide

/-- All that can be wrong with a body is told as one kind of error. -/
theorem Body.eq_invalidJson_of_decode {α : Type} [Codec α] {request : Http.Request} {error : ApiError}
    (fault : (decode request : Except ApiError α) = .error error) :
    ∃ message, error = .invalidJson message ∧ Text.Unquoted message := by
  have unquoted : ∀ fault, Text.Unquoted (faultMessage fault) := by
    intro fault
    cases fault <;> exact ⟨'F', ⟨_, rfl⟩, by decide⟩
  unfold decode at fault
  split at fault
  · cases fault
    exact ⟨_, rfl, 'E', ⟨_, rfl⟩, by decide⟩
  · split at fault
    · cases fault
      exact ⟨_, rfl, 'F', ⟨_, rfl⟩, by decide⟩
    · split at fault
      · cases fault
      · cases fault
        exact ⟨_, rfl, unquoted _⟩

/-! ### The errors of the operations on records -/

namespace ApiError

open Text (Unquoted)

variable {kind : RecordKind}

theorem isRefusal_conflict {field : String} (unquoted : Unquoted field) (value : String) :
    (ofStore (.conflict field value)).IsRefusal where
  status := (by decide : 409 < 500)
  message := ((unquoted.append " '").append value).append "' already exists"

theorem isRefusal_notFound (ns : Namespace) (id : String) : (ofStore (.notFound ns id)).IsRefusal where
  status := (by decide : 404 < 500)
  message := ⟨'N', .append (.append (.append ⟨_, rfl⟩ _) _) _, by decide⟩

theorem isRefusal_duplicateKey (ns : Namespace) (id : String) :
    (ofStore (.duplicateKey ns id)).IsRefusal where
  status := (by decide : 409 < 500)
  message := ⟨'D', .append (.append (.append ⟨_, rfl⟩ _) _) _, by decide⟩

theorem isRefusal_missingContext (kind : RecordKind) : (ofStore (.missingContext kind)).IsRefusal where
  status := (by decide : 400 < 500)
  message := ⟨'M', .append (.append ⟨_, rfl⟩ _) _, by decide⟩

theorem isRefusal_invalidNamespace (name : String) :
    (ofStore (.invalidNamespace name)).IsRefusal where
  status := (by decide : 400 < 500)
  message := ⟨'I', .append ⟨_, rfl⟩ _, by decide⟩

theorem isRefusal_of_checkDatabaseName {name : String} {error : StoreError}
    (unusable : checkDatabaseName name = .error error) : (ofStore error).IsRefusal := by
  unfold checkDatabaseName at unusable
  split at unusable
  · cases unusable
  · cases unusable
    exact isRefusal_invalidNamespace name

theorem isRefusal_of_place {record : kind.Carrier} {error : StoreError}
    (placeless : Record.place record = .error error) : (ofStore error).IsRefusal := by
  unfold Record.place RecordKind.resolve at placeless
  split at placeless
  · split at placeless
    · cases placeless
      exact isRefusal_missingContext _
    · next c _ =>
      split at placeless
      · cases placeless
        exact isRefusal_missingContext _
      · cases checked : checkDatabaseName c with
        | ok _ => simp [checked, Except.map] at placeless
        | error cause =>
          simp only [checked, Except.map, Except.error.injEq] at placeless
          exact placeless ▸ isRefusal_of_checkDatabaseName checked
  · cases placeless

theorem unquoted_idField (kind : RecordKind) : Unquoted (Record.idField kind.Carrier) := by
  cases kind <;> exact ⟨_, ⟨_, rfl⟩, by decide⟩

/-- The fields of what is unique to a record. -/
theorem unquoted_of_claims {record : kind.Carrier} {claim : String × String}
    (claimed : claim ∈ Page.claims record) : Unquoted claim.1 := by
  have listed : claim ∈ Record.uniqueFields record := (List.mem_filter.mp claimed).1
  cases kind with
  | user =>
    rcases List.mem_cons.mp listed with rfl | listed
    · show Unquoted "email"
      exact ⟨_, ⟨_, rfl⟩, by decide⟩
    · rw [List.mem_singleton.mp listed]
      show Unquoted "phone"
      exact ⟨_, ⟨_, rfl⟩, by decide⟩
  | _ => cases listed

end ApiError

namespace Page

open ApiError

variable {kind : RecordKind} {ns : Namespace} {page : Page kind.Carrier} {error : StoreError}

/-- A clash is with one of the values that were asked for. -/
theorem isRefusal_of_clash? {exclude : Option String} {claims : List (String × String)}
    {record : kind.Carrier} (asked : ∀ claim ∈ claims, claim ∈ Page.claims record)
    {claim : String × String} (clash : page.clash? exclude claims = some claim) :
    (ofStore (.conflict claim.1 claim.2)).IsRefusal :=
  isRefusal_conflict (unquoted_of_claims (asked claim (List.mem_of_find?_eq_some clash))) claim.2

theorem isRefusal_of_create {record : kind.Carrier}
    (failed : (page.create ns record).1 = .error error) : (ofStore error).IsRefusal := by
  unfold create at failed
  split at failed
  · cases failed
    exact isRefusal_duplicateKey ..
  · cases failed

theorem isRefusal_of_get {id : String} (failed : page.get ns id = .error error) :
    (ofStore error).IsRefusal := by
  unfold get at failed
  split at failed
  · cases failed
    exact isRefusal_notFound ..
  · cases failed

theorem isRefusal_of_update {change : kind.Carrier}
    (failed : (page.update ns change).1 = .error error) : (ofStore error).IsRefusal := by
  unfold update at failed
  split at failed
  · cases failed
    exact isRefusal_notFound ..
  · dsimp only at failed
    split at failed
    · next clash =>
      cases failed
      exact isRefusal_of_clash? (fun _ claimed => (List.mem_filter.mp claimed).1) clash
    · cases failed

theorem isRefusal_of_delete {id : String} (failed : (page.delete ns id).1 = .error error) :
    (ofStore error).IsRefusal := by
  unfold delete at failed
  split at failed
  · cases failed
    exact isRefusal_notFound ..
  · cases failed

theorem isRefusal_of_validate {record : kind.Carrier} (failed : page.validate record = .error error) :
    (ofStore error).IsRefusal := by
  unfold validate at failed
  split at failed
  · cases failed
    exact isRefusal_conflict (unquoted_idField kind) _
  · split at failed
    · next clash =>
      cases failed
      exact isRefusal_of_clash? (fun _ => id) clash
    · cases failed

theorem isRefusal_of_sync {listing : Listing kind} {id child : String} {membership : Membership}
    (failed : (page.sync ns listing id membership child).1 = .error error) :
    (ofStore error).IsRefusal := by
  unfold sync at failed
  split at failed
  · cases failed
    exact isRefusal_notFound ..
  · cases failed

end Page

/-- **Whatever an operation on a ledger fails with is a refusal.** -/
theorem Ledger.isRefusal_of_perform {ledger : Ledger} {errand : Errand} {error : StoreError}
    (failed : (ledger.perform errand).1 = .error error) : (ApiError.ofStore error).IsRefusal := by
  have onPage : ∀ {α : Type} {kind : RecordKind} {template : kind.Carrier}
      {work : Namespace → Page kind.Carrier → Except StoreError α × Page kind.Carrier},
      (ledger.onPage kind template work).1 = .error error →
      (∀ ns page, (work ns page).1 = .error error → (ApiError.ofStore error).IsRefusal) →
      (ApiError.ofStore error).IsRefusal := by
    intro α kind template work failed works
    unfold Ledger.onPage at failed
    split at failed
    · next placeless =>
      cases failed
      exact ApiError.isRefusal_of_place placeless
    · exact works _ _ failed
  cases errand with
  | create => exact onPage failed fun _ _ => Page.isRefusal_of_create
  | get => exact onPage failed fun _ _ => Page.isRefusal_of_get
  | update => exact onPage failed fun _ _ => Page.isRefusal_of_update
  | delete => exact onPage failed fun _ _ => Page.isRefusal_of_delete
  | list => exact onPage failed fun _ _ impossible => by cases impossible
  | validate => exact onPage failed fun _ _ => Page.isRefusal_of_validate
  | sync => exact onPage failed fun _ _ => Page.isRefusal_of_sync

end Syllabus
