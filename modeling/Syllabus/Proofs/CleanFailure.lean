/-
**Requests fail cleanly.**

No request, whatever it asks for, makes the service fail; one that cannot be met is refused, and leaves the
store as it was.

* `Program.FailsWith` — a program keeps a ledger and fails with such errors only, sequenced by
  `FailsWith.bind`; `Curriculum.fails_createLesson` and the like — the workflows;
* `Program.FailsIdle` — whatever a run on a store fails with, the store is left; `Program.Refuses` — and it
  is a refusal;
* `Records.refuses_update`, `Curriculum.refuses_createLesson` and the like — the operations on records; the
  workflows on a tidy store, where no list fails to follow;
* `Handler.settles_handle` — every handler succeeds, or refuses so;
* `Store.Intact` — what every request keeps of the store;
* **`requests_fail_cleanly`** — the responses to any requests.
-/

import Syllabus.Proofs.Atomicity
import Syllabus.Proofs.UniqueUsers

namespace Syllabus

/-! ### What programs fail with -/

namespace Program

variable {spare : ObjectId} {ε ε' α β : Type} {tells : ε → Prop}

/-- On a store with a ledger the program leaves one with a ledger, and fails with such errors only. -/
def FailsWith (spare : ObjectId) (tells : ε → Prop) (program : StoreProgram ε α) : Prop :=
  ∀ store ledger, store.Reflects ledger →
    (∃ ledger, (program.run (Store.respond spare) store).2.Reflects ledger) ∧
      ∀ error, (program.run (Store.respond spare) store).1 = .error error → tells error

namespace FailsWith

theorem done (value : α) : FailsWith spare tells (.done value : StoreProgram ε α) := by
  intro store ledger reflects
  refine ⟨⟨ledger, reflects⟩, fun error impossible => ?_⟩
  cases impossible

theorem fail {error : ε} (told : tells error) :
    FailsWith spare tells (.fail error : StoreProgram ε α) := by
  intro store ledger reflects
  refine ⟨⟨ledger, reflects⟩, fun other same => ?_⟩
  cases same
  exact told

theorem ofExcept {value : Except ε α} (told : ∀ error, value = .error error → tells error) :
    FailsWith spare tells (Program.ofExcept value : StoreProgram ε α) := by
  cases value with
  | ok value => exact done value
  | error error => exact fail (told error rfl)

theorem bind {program : StoreProgram ε α} {next : α → StoreProgram ε β}
    (first : FailsWith spare tells program) (rest : ∀ value, FailsWith spare tells (next value)) :
    FailsWith spare tells (program >>= next) := by
  intro store ledger reflects
  obtain ⟨⟨ledger, reflects⟩, told⟩ := first store ledger reflects
  rw [run_bind]
  generalize program.run (Store.respond spare) store = ran at reflects told
  obtain ⟨answer, reached⟩ := ran
  cases answer with
  | ok value => exact rest value reached ledger reflects
  | error error =>
    refine ⟨⟨ledger, reflects⟩, fun other same => ?_⟩
    cases same
    exact told error rfl

theorem mapError {program : StoreProgram ε α} {change : ε → ε'} {tells' : ε' → Prop}
    (fails : FailsWith spare tells program) (told : ∀ error, tells error → tells' (change error)) :
    FailsWith spare tells' (program.mapError change) := by
  intro store ledger reflects
  obtain ⟨left, only⟩ := fails store ledger reflects
  rw [run_mapError]
  refine ⟨left, fun error same => ?_⟩
  cases failed : (program.run (Store.respond spare) store).1 with
  | ok value =>
    rw [failed] at same
    cases same
  | error cause =>
    rw [failed] at same
    cases same
    exact told cause (only cause failed)

/-- **An operation on records fails with refusals only.** -/
theorem errand (errand : Errand) :
    FailsWith spare (fun error => (ApiError.ofStore error).IsRefusal) errand.program := by
  intro store ledger reflects
  obtain ⟨answer, left⟩ := reflects.perform spare errand
  refine ⟨⟨_, left⟩, fun error failed => ?_⟩
  exact Ledger.isRefusal_of_perform (answer.symm.trans failed)

end FailsWith

end Program

namespace Curriculum

open Program (FailsWith)

variable {spare : ObjectId}

/-- The workflow failed for a refusal. -/
def Refused (error : CurriculumError) : Prop :=
  (ApiError.ofCurriculum error).IsRefusal

/-- The workflow failed for a refusal, or since a list did not follow. -/
def RefusedOrPartial (error : CurriculumError) : Prop :=
  Refused error ∨ ∃ action child parent cause, error = .partialSync action child parent cause

theorem refused_notEmpty (kind : RecordKind) (id field : String) (remaining : Nat) :
    Refused (.notEmpty kind id field remaining) where
  status := (by decide : 409 < 500)
  message := by
    have named : Text.Unquoted kind.text := by
      cases kind <;> exact ⟨_, ⟨_, rfl⟩, by decide⟩
    exact ((((((named.append _).append _).append _).append _).append _).append _)

section

variable {tells : CurriculumError → Prop} (told : ∀ error, Refused error → tells error)

include told

theorem fails_records (errand : Errand) : FailsWith spare tells (records errand.program) :=
  .mapError (.errand errand) fun _ refusal => told _ refusal

theorem fails_ensureEmpty (kind : RecordKind) (id field : String) (children : List String) :
    FailsWith spare tells (ensureEmpty kind id field children) := by
  unfold ensureEmpty
  split
  · exact .done ()
  · exact .fail (told _ (refused_notEmpty ..))

end

theorem fails_createCourse (now : Instant) (course : Course) :
    FailsWith spare Refused (createCourse now course) := by
  have usable : FailsWith spare Refused
      (records (Program.ofExcept (checkDatabaseName course.courseId))) :=
    .mapError (.ofExcept fun _ => ApiError.isRefusal_of_checkDatabaseName) fun _ => id
  refine .bind usable fun _ => .bind (fails_records (fun _ => id) (.validate .course _)) fun _ => ?_
  exact .bind (fails_records (fun _ => id) (.create .course _)) fun _ => .done _

theorem fails_deleteCourse (courseId : String) :
    FailsWith spare Refused (deleteCourse courseId) :=
  .bind (fails_records (fun _ => id) (.get .course _)) fun _ =>
    .bind (fails_ensureEmpty (fun _ => id) _ _ _ _) fun _ =>
      fails_records (fun _ => id) (.delete .course _)

/-- A list may not follow for whatever reason. -/
theorem fails_syncParent {kind : RecordKind} (listing : Listing kind) (parent : kind.Carrier)
    (membership : Membership) (child : String) :
    FailsWith spare RefusedOrPartial (syncParent parent membership listing.field child) :=
  .mapError (.errand (.sync kind listing membership parent child)) fun _ _ => .inr ⟨_, _, _, _, rfl⟩

theorem fails_createLesson (lesson : Lesson) :
    FailsWith spare RefusedOrPartial (createLesson lesson) :=
  .bind (fails_records (fun _ => .inl) (.get .course _)) fun course =>
    .bind (fails_records (fun _ => .inl) (.validate .lesson _)) fun _ =>
      .bind (fails_records (fun _ => .inl) (.create .lesson _)) fun _ =>
        .bind (fails_syncParent .lessons course .push _) fun _ => .done _

theorem fails_deleteLesson (courseRef lessonId : String) :
    FailsWith spare RefusedOrPartial (deleteLesson courseRef lessonId) :=
  .bind (fails_records (fun _ => .inl) (.get .lesson _)) fun _ =>
    .bind (fails_ensureEmpty (fun _ => .inl) _ _ _ _) fun _ =>
      .bind (fails_records (fun _ => .inl) (.delete .lesson _)) fun _ =>
        fails_syncParent .lessons _ .pull _

theorem fails_createContent (content : Content) :
    FailsWith spare RefusedOrPartial (createContent content) :=
  .bind (fails_records (fun _ => .inl) (.get .lesson _)) fun lesson =>
    .bind (fails_records (fun _ => .inl) (.validate .content _)) fun _ =>
      .bind (fails_records (fun _ => .inl) (.create .content _)) fun _ =>
        .bind (fails_syncParent .contents lesson .push _) fun _ => .done _

theorem fails_deleteContent (courseRef contentId : String) :
    FailsWith spare RefusedOrPartial (deleteContent courseRef contentId) :=
  .bind (fails_records (fun _ => .inl) (.get .content _)) fun _ =>
    .bind (fails_records (fun _ => .inl) (.delete .content _)) fun _ =>
      fails_syncParent .contents _ .pull _

end Curriculum

/-! ### What a failure leaves -/

namespace Program

variable {spare : ObjectId} {store : Store} {ε α : Type}

/-- A run whose calls do not fail is one of those that may. -/
theorem run_outage_nil (program : StoreProgram ε α) (spare : ObjectId) (store : Store) :
    program.run (Outage.respond spare) ⟨[], store⟩ =
      ((program.run (Store.respond spare) store).1,
        ⟨[], (program.run (Store.respond spare) store).2⟩) := by
  induction program generalizing store with
  | done value => rfl
  | fail error => rfl
  | ask call next ih => exact ih (store.respond spare call).1 (store.respond spare call).2

theorem Leads.run {program : StoreProgram ε α} {ends : Except ε α → Store → Prop}
    (leads : Leads spare store program ends) :
    ends (program.run (Store.respond spare) store).1 (program.run (Store.respond spare) store).2 := by
  have ended := leads []
  rwa [run_outage_nil] at ended

/-- Whatever a run on the store fails with, the store is as it was. -/
def FailsIdle (spare : ObjectId) (store : Store) (program : StoreProgram ε α) : Prop :=
  ∀ error, (program.run (Store.respond spare) store).1 = .error error →
    (program.run (Store.respond spare) store).2 = store

theorem FailsIdle.of_yields {program : StoreProgram ε α} {after : α → Store → Prop}
    {lost : Store → Prop} (yields : Yields (Store.respond spare) (· = store) program after lost)
    (idle : ∀ next, lost next → next = store) : FailsIdle spare store program := by
  intro error failed
  have ended := yields store rfl
  generalize program.run (Store.respond spare) store = ran at failed ended
  obtain ⟨answer, next⟩ := ran
  cases failed
  exact idle next ended

theorem FailsIdle.of_leads {program : StoreProgram ε α} {after : α → Store → Prop}
    (leads : Leads spare store program (store.AllOrNothing after)) :
    FailsIdle spare store program := by
  intro error failed
  have ended := leads.run
  rwa [failed] at ended

theorem FailsIdle.of_reads {program : StoreProgram ε α} (reads : program.Asks Call.Reads) :
    FailsIdle spare store program :=
  fun _ _ => reads.run_reads spare store

/-- Whatever a run on the store fails with is a refusal, and the store is as it was. -/
def Refuses (spare : ObjectId) (store : Store) (tell : ε → ApiError) (program : StoreProgram ε α) :
    Prop :=
  ∀ error, (program.run (Store.respond spare) store).1 = .error error →
    (tell error).IsRefusal ∧ (program.run (Store.respond spare) store).2 = store

variable {ledger : Ledger} {tell : ε → ApiError} {program : StoreProgram ε α}

theorem FailsWith.refuses (fails : FailsWith spare (fun error => (tell error).IsRefusal) program)
    (reflects : store.Reflects ledger) (idle : FailsIdle spare store program) :
    Refuses spare store tell program :=
  fun error failed => ⟨(fails store ledger reflects).2 error failed, idle error failed⟩

end Program

namespace Records

open Program (FailsWith Leads Refuses)

/-- An update that fails leaves the store, whatever this holds. -/
theorem leads_update_idle {ρ : Type} [Record ρ] (spare : ObjectId) (store : Store) (change : ρ) :
    Leads spare store (update change) (store.AllOrNothing fun _ _ => True) := by
  unfold update
  cases Record.place change with
  | error error => exact .fail rfl
  | ok ns =>
    have finds : Leads spare store (StoreProgram.call .update (.findOne ns (.byId (Record.id change))))
        (store.AllOrNothing fun _ next => next = store) := .call (fun _ => rfl) rfl
    refine finds.bind_all (fun found next same => ?_) fun _ => rfl
    rw [same]
    cases found with
    | none => exact .fail rfl
    | some document =>
      cases read : (decode ns document : Except StoreError ρ) with
      | error error =>
        simp only [read]
        exact .fail rfl
      | ok existing =>
        simp only [read]
        have reads := (asks_ensureAllUnused ns (some (Record.id change))
          (introduced existing (merge existing change))).mono fun _ counts => counts.reads
        refine (Leads.of_reads reads).bind (fun _ reached same => ?_) fun _ _ => id
        rw [same]
        have replaces : ∀ filter document, Leads spare store
            (StoreProgram.call .update (.replaceOne ns filter document))
            (store.CountOrNothing fun _ => True) := by
          intro filter document
          refine .call (fun _ => rfl) ?_
          rw [Store.respond_replaceOne]
          rcases store.replaceOne_cases ns filter document with missed | ⟨_, _, one, _⟩
          · rw [missed]
            rfl
          · rw [one]
            trivial
        refine ((replaces _ _).bind_count _ _).mono fun result next there => ?_
        cases result with
        | error error => exact there
        | ok record => trivial

section

variable {spare : ObjectId} {store : Store} {ledger : Ledger} (reflects : store.Reflects ledger)

include reflects

theorem refuses_of_reads (errand : Errand) (reads : errand.program.Asks Call.Reads) :
    Refuses spare store .ofStore errand.program :=
  FailsWith.refuses (.errand errand) reflects (.of_reads reads)

theorem refuses_of_leads (errand : Errand) {after : errand.Result → Store → Prop}
    (leads : Leads spare store errand.program (store.AllOrNothing after)) :
    Refuses spare store .ofStore errand.program :=
  FailsWith.refuses (.errand errand) reflects (.of_leads leads)

theorem refuses_update (kind : RecordKind) (change : kind.Carrier) :
    Refuses spare store .ofStore (update change) :=
  refuses_of_leads reflects (.update kind change) (leads_update_idle spare store change)

end

end Records

/-- With a document more or less, a store is not the same. -/
theorem Store.Patched.ne {old next : Store} {ns : Namespace} {before after : Option Document}
    (patched : old.Patched next ns before after) (moved : before.isSome ≠ after.isSome) :
    next ≠ old := by
  rintro rfl
  obtain ⟨front, back, held, left⟩ := patched.here
  have lengths := congrArg List.length (held.symm.trans left)
  cases before <;> cases after <;> simp at moved lengths

namespace Bond

variable {bond : Bond} {old next : Store}

theorem Adopted.ne {record : bond.childKind.Carrier} (adopted : bond.Adopted record old next) :
    next ≠ old :=
  adopted.2.2.ne (by simp)

theorem Dropped.ne (dropped : bond.Dropped old next) : next ≠ old := by
  obtain ⟨document, record, _, _, _, patched⟩ := dropped
  exact patched.ne (by simp)

end Bond

namespace Curriculum

open Program (FailsWith FailsIdle Leads Refuses)

variable {spare : ObjectId} {store : Store} {ledger : Ledger}

/-- A workflow that leaves the store where it fails has written nothing, so all lists have followed. -/
theorem refuses_of_partial {α : Type} {program : StoreProgram CurriculumError α}
    {ends : Except CurriculumError α → Store → Prop} (reflects : store.Reflects ledger)
    (fails : FailsWith spare RefusedOrPartial program) (idle : FailsIdle spare store program)
    (leads : Leads spare store program ends)
    (wrote : ∀ action child parent cause next,
      ends (.error (.partialSync action child parent cause)) next → next ≠ store) :
    Refuses spare store ApiError.ofCurriculum program := by
  intro error failed
  have left := idle error failed
  rcases (fails store ledger reflects).2 error failed with refused | ⟨action, child, parent, cause, rfl⟩
  · exact ⟨refused, left⟩
  · have ended := leads.run
    rw [failed] at ended
    exact absurd left (wrote action child parent cause _ ended)

/-! ### The workflows -/

/-- An operation on records, as the whole of a workflow. -/
theorem refuses_records {α : Type} {program : StoreProgram StoreError α}
    (refuses : Refuses spare store .ofStore program) :
    Refuses spare store .ofCurriculum (records program) := by
  intro error failed
  rw [records, Program.run_mapError] at failed ⊢
  cases answer : (program.run (Store.respond spare) store).1 with
  | ok value =>
    rw [answer] at failed
    cases failed
  | error cause =>
    rw [answer] at failed
    cases failed
    exact refuses cause answer

section

variable {catalog : Catalog} (reflects : store.Reflects ledger) (keeps : store.Keeps catalog)
  (consistent : catalog.Consistent)

include reflects keeps consistent

theorem refuses_createCourse (now : Instant) (course : Course) :
    Refuses spare store .ofCurriculum (createCourse now course) :=
  (fails_createCourse now course).refuses reflects
    (.of_yields (yields_createCourse keeps consistent now course) fun _ lost => lost.1)

theorem refuses_deleteCourse (courseId : String) :
    Refuses spare store .ofCurriculum (deleteCourse courseId) :=
  (fails_deleteCourse courseId).refuses reflects
    (.of_yields (yields_deleteCourse keeps consistent courseId) fun _ lost => lost.1)

theorem refuses_createLesson (lesson : Lesson) :
    Refuses spare store .ofCurriculum (createLesson lesson) :=
  refuses_of_partial reflects (fails_createLesson lesson)
    (.of_yields (yields_createLesson keeps consistent lesson) fun _ lost => lost.1)
    (leads_createLesson keeps.kept.regular lesson) fun _ _ _ _ _ ended => ended.2.1.ne

theorem refuses_deleteLesson (courseRef lessonId : String) :
    Refuses spare store .ofCurriculum (deleteLesson courseRef lessonId) :=
  refuses_of_partial reflects (fails_deleteLesson courseRef lessonId)
    (.of_yields (yields_deleteLesson keeps consistent courseRef lessonId) fun _ lost => lost.1)
    (leads_deleteLesson keeps.kept.regular courseRef lessonId) fun _ _ _ _ _ ended => ended.2.1.ne

theorem refuses_createContent (content : Content) :
    Refuses spare store .ofCurriculum (createContent content) :=
  refuses_of_partial reflects (fails_createContent content)
    (.of_yields (yields_createContent keeps consistent content) fun _ lost => lost.1)
    (leads_createContent keeps.kept.regular content) fun _ _ _ _ _ ended => ended.2.1.ne

theorem refuses_deleteContent (courseRef contentId : String) :
    Refuses spare store .ofCurriculum (deleteContent courseRef contentId) :=
  refuses_of_partial reflects (fails_deleteContent courseRef contentId)
    (.of_yields (yields_deleteContent keeps consistent courseRef contentId) fun _ lost => lost.1)
    (leads_deleteContent keeps.kept.regular courseRef contentId)
    fun _ _ _ _ _ ⟨_, ended⟩ => ended.2.1.ne

end

end Curriculum

/-! ### Handlers -/

/-- The reply is taken for a success. -/
structure Reply.IsSuccess (reply : Reply) : Prop where
  status : reply.response.status < 400
  report : ¬ reply.response.ReportsConflict

namespace Reply

theorem isSuccess_withStatus {α : Type} [Codec α] {status : Nat} (low : status < 400) (data : α) :
    (withStatus status data).IsSuccess where
  status := by
    unfold response withStatus
    split
    · decide
    · exact low
  report := not_reportsConflict_withStatus status data

theorem isSuccess_success {α : Type} [Codec α] (data : α) : (success data).IsSuccess :=
  isSuccess_withStatus (by decide) data

theorem isSuccess_created {α : Type} [Codec α] (data : α) : (created data).IsSuccess :=
  isSuccess_withStatus (by decide) data

theorem isSuccess_noContent : noContent.IsSuccess where
  status := by decide
  report := ApiError.not_reportsConflict_of_ne (by decide)

end Reply

namespace Handler

open Program (Refuses)
open Reply (isSuccess_success isSuccess_created isSuccess_noContent)
open Curriculum Records

variable {spare : ObjectId} {store : Store} {ledger : Ledger} {ε α : Type}

/-- A run on the store ends with a success, or with a refusal that leaves the store. -/
def Settles (spare : ObjectId) (store : Store) (program : StoreProgram ApiError Reply) : Prop :=
  match program.run (Store.respond spare) store with
  | (.ok reply, _) => reply.IsSuccess
  | (.error error, next) => error.IsRefusal ∧ next = store

theorem settles_body [Codec α] (request : Http.Request) {next : α → StoreProgram ApiError Reply}
    (rest : ∀ value, Settles spare store (next value)) :
    Settles spare store (body request >>= next) := by
  cases read : (Body.decode request : Except ApiError α) with
  | ok value =>
    rw [body_bind_of_ok read]
    exact rest value
  | error error =>
    rw [body_bind_of_error read]
    obtain ⟨message, rfl, unquoted⟩ := Body.eq_invalidJson_of_decode read
    exact ⟨⟨(by decide : 400 < 500), unquoted⟩, rfl⟩

/-- A handler that replies with what a program returned. -/
theorem settles_reply {program : StoreProgram ε α} {tell : ε → ApiError} {reply : α → Reply}
    (refuses : Refuses spare store tell program) (success : ∀ value, (reply value).IsSuccess) :
    Settles spare store (program.mapError tell >>= fun value => pure (reply value)) := by
  unfold Settles
  rw [Program.run_bind, Program.run_mapError]
  unfold Refuses at refuses
  generalize program.run (Store.respond spare) store = ran at refuses ⊢
  obtain ⟨answer, next⟩ := ran
  cases answer with
  | ok value => exact success value
  | error error => exact refuses error rfl

/-- A handler that reads before it goes on. -/
theorem settles_after_reads {program : StoreProgram ε α} {tell : ε → ApiError}
    {next : α → StoreProgram ApiError Reply} (reads : program.Asks Call.Reads)
    (refuses : Refuses spare store tell program) (rest : ∀ value, Settles spare store (next value)) :
    Settles spare store (program.mapError tell >>= next) := by
  unfold Settles
  have same := reads.run_reads spare store
  rw [Program.run_bind, Program.run_mapError]
  unfold Refuses at refuses
  generalize program.run (Store.respond spare) store = ran at refuses same ⊢
  obtain ⟨answer, reached⟩ := ran
  cases same
  cases answer with
  | ok value => exact rest value
  | error error => exact refuses error rfl

/-- What is missing in a body is told to the client. -/
theorem settles_badRequest {message : String} (unquoted : Text.Unquoted message) :
    Settles spare store (.fail (.badRequest message)) :=
  ⟨⟨(by decide : 400 < 500), unquoted⟩, rfl⟩

/-- **Every handler succeeds, or refuses and leaves the store.** -/
theorem settles_handle {backendName : String} {occasion : Occasion} {request : Http.Request}
    {verb : Verb} {route : Route} {program : StoreProgram ApiError Reply}
    (handled : handle backendName occasion request verb route = some program)
    (reflects : store.Reflects ledger) (tidy : store.Tidy) (spare : ObjectId) :
    Settles spare store program := by
  obtain ⟨catalog, keeps, consistent, _⟩ := tidy
  have noContent : ∀ _ : Unit, Reply.noContent.IsSuccess := fun _ => isSuccess_noContent
  cases verb <;> cases route <;> cases handled
  case get.health =>
    have pinged : Refuses spare store .ofStore Records.ping := by
      intro error impossible
      cases impossible
    exact settles_reply pinged fun _ => isSuccess_success _
  case get.courses =>
    exact settles_reply (refuses_of_reads reflects (.list .course _) (asks_list _)) isSuccess_success
  case get.lessons =>
    exact settles_reply (refuses_of_reads reflects (.list .lesson _) (asks_list _)) isSuccess_success
  case get.contents =>
    exact settles_reply (refuses_of_reads reflects (.list .content _) (asks_list _)) isSuccess_success
  case get.users =>
    exact settles_reply (refuses_of_reads reflects (.list .user _) (asks_list _)) isSuccess_success
  case get.course =>
    exact settles_reply (refuses_of_reads reflects (.get .course _) (asks_get _)) isSuccess_success
  case get.lesson =>
    exact settles_reply (refuses_of_reads reflects (.get .lesson _) (asks_get _)) isSuccess_success
  case get.content =>
    exact settles_reply (refuses_of_reads reflects (.get .content _) (asks_get _)) isSuccess_success
  case get.user =>
    exact settles_reply (refuses_of_reads reflects (.get .user _) (asks_get _)) isSuccess_success
  case post.courses =>
    exact settles_body request fun course =>
      settles_reply (refuses_createCourse reflects keeps consistent occasion.now course) isSuccess_created
  case put.course courseId =>
    exact settles_body request fun change =>
      settles_reply (refuses_records (refuses_update reflects .course _)) isSuccess_success
  case delete.course courseId =>
    exact settles_reply (refuses_deleteCourse reflects keeps consistent courseId) noContent
  case post.lessons courseRef =>
    exact settles_body request fun lesson =>
      settles_reply (refuses_createLesson reflects keeps consistent _) isSuccess_created
  case put.lesson courseRef lessonId =>
    exact settles_body request fun change =>
      settles_reply (refuses_records (refuses_update reflects .lesson _)) isSuccess_success
  case delete.lesson courseRef lessonId =>
    exact settles_reply (refuses_deleteLesson reflects keeps consistent courseRef lessonId) noContent
  case post.contents courseRef =>
    refine settles_body request fun content => ?_
    split
    · exact settles_badRequest ⟨'l', ⟨_, rfl⟩, by decide⟩
    · exact settles_reply (refuses_createContent reflects keeps consistent _) isSuccess_created
  case put.content courseRef contentId =>
    exact settles_body request fun change =>
      settles_reply (refuses_records (refuses_update reflects .content _)) isSuccess_success
  case delete.content courseRef contentId =>
    exact settles_reply (refuses_deleteContent reflects keeps consistent courseRef contentId) noContent
  case post.users =>
    refine settles_body request fun user => ?_
    split
    · exact settles_badRequest ⟨'u', ⟨_, rfl⟩, by decide⟩
    · have asks := (@asks_checkUnique User _ user _ rfl).mono fun _ => Call.Counts.reads
      refine settles_after_reads asks (refuses_of_reads reflects (.validate .user user) asks) fun _ => ?_
      exact settles_reply (refuses_of_leads reflects (.create .user user)
        (leads_create .user (c := "") fun _ placed => (Except.ok.inj placed).symm))
        fun _ => isSuccess_created user
  case put.user userName =>
    exact settles_body request fun change => settles_reply (refuses_update reflects .user _) isSuccess_success
  case delete.user userName =>
    exact settles_reply (refuses_of_leads reflects (.delete .user _)
      (leads_delete .user (c := "") fun _ placed => (Except.ok.inj placed).symm)) noContent

end Handler

/-! ### Any number of requests -/

/-- Records on shelves make up a ledger. -/
theorem Store.exists_ledger {store : Store}
    (shelved : ∀ kind c, ∃ entries : List (Entry (RecordKind.Carrier kind)),
      store.Shelf (kind.home c) entries) : ∃ ledger, store.Reflects ledger := by
  classical
  let page (kind : RecordKind) (ns : Namespace) : Page kind.Carrier :=
    if kept : ∃ entries : List (Entry kind.Carrier), store.Shelf ns entries then Entry.page kept.choose
    else []
  exact ⟨⟨page⟩, fun kind c => ⟨_, (shelved kind c).choose_spec, dif_pos (shelved kind c)⟩⟩

/-- All records of the store are kept as such, and the lists are in step with them. -/
structure Store.Intact (store : Store) : Prop where
  tidy : store.Tidy
  users : ∃ users, store.KeepsApart users

namespace Store.Intact

variable {store : Store}

theorem reflects (intact : store.Intact) : ∃ ledger, store.Reflects ledger := by
  refine exists_ledger fun kind c => ?_
  by_cases someone : kind = .user
  · obtain ⟨users, _, ⟨entries, shelf, _⟩, _⟩ := intact.users
    cases someone
    exact ⟨entries, shelf⟩
  · exact intact.tidy.kept_and_noOrphans.1 kind someone c

/-- Every request leaves the store intact. -/
theorem leaves (intact : store.Intact) (incoming : Incoming) : (incoming.leaves store).Intact where
  tidy := by
    have left := @Service.preserves_serve incoming.spare Store.backendName incoming.cors
      incoming.occasion incoming.request store intact.tidy
    unfold Incoming.leaves Incoming.answer
    generalize (Service.serve Store.backendName incoming.cors incoming.occasion incoming.request).run
      (Store.respond incoming.spare) store = ran at left
    obtain ⟨answer, next⟩ := ran
    cases answer with
    | ok response => exact left
    | error impossible => cases impossible
  users := by
    obtain ⟨users, apart⟩ := intact.users
    exact Incoming.keeps_apart apart

theorem after (traffic : List Incoming) : (Store.empty.after traffic).Intact :=
  after_keeps (fun incoming _ intact => intact.leaves incoming)
    ⟨tidy_empty, Store.keeps_apart []⟩ traffic

end Store.Intact

namespace Incoming

variable {incoming : Incoming} {store : Store}

/-- Dressing does not make a report of an overwritten version. -/
theorem not_reportsConflict_dressed {response : Http.Response} (none : ¬ response.ReportsConflict) :
    ¬ (incoming.dressed response).ReportsConflict := by
  have body := incoming.body_dressed response
  split at body
  · refine ApiError.not_reportsConflict_of_ne ?_
    rw [body]
    decide
  · rintro ⟨ns, id, expected, same⟩
    exact none ⟨ns, id, expected, body.symm.trans same⟩

theorem Refused.not_reportsConflict {response : Http.Response} (refused : incoming.Refused response) :
    ¬ response.ReportsConflict := by
  refine ApiError.not_reportsConflict_of_ne ?_
  rcases refused.body with empty | ⟨name, invalid⟩
  · rw [empty]
    decide
  · have beginning : (Service.badParameter name).body.toList.take 3 = ['I', 'n', 'v'] := by
      unfold Service.badParameter
      show List.take 3 ("Invalid URL: Invalid UTF-8 in `" ++ name ++ "`").toList = _
      simp only [String.toList_append]
      rfl
    rw [invalid, beginning]
    decide

/-- What only asks to read leaves the store, whatever this holds. -/
theorem leaves_of_reads (reads : incoming.request.method = "GET" ∨ incoming.request.method = "HEAD") :
    incoming.leaves store = store := by
  unfold leaves
  rcases incoming.handled_or_refused with ⟨verb, route, program, handled⟩ | ⟨response, refused⟩
  · have get : verb = .get := by
      have method := handled.method
      rcases reads with get | head
      · rw [get] at method
        exact (Option.some.inj method).symm
      · rw [head] at method
        exact (Option.some.inj method).symm
    cases get
    rw [handled.answer_eq]
    exact (Handler.reads_get handled.handler).run_reads incoming.spare store
  · rw [refused.answer]

/-- **A request to an intact store fails cleanly.** -/
theorem fails_cleanly (intact : store.Intact) :
    (incoming.response store).status < 500 ∧ ¬ (incoming.response store).ReportsConflict ∧
      (400 ≤ (incoming.response store).status → incoming.leaves store = store) := by
  unfold response leaves
  rcases incoming.handled_or_refused with ⟨verb, route, program, handled⟩ | ⟨response, refused⟩
  · obtain ⟨ledger, reflects⟩ := intact.reflects
    have settles := Handler.settles_handle handled.handler reflects intact.tidy incoming.spare
    rw [handled.answer_eq, status_dressed]
    unfold Handler.Settles at settles
    generalize program.run (Store.respond incoming.spare) store = ran at settles ⊢
    obtain ⟨answer, next⟩ := ran
    cases answer with
    | ok reply =>
      have low : reply.response.status < 400 := settles.status
      exact ⟨low.trans (by decide), not_reportsConflict_dressed settles.report,
        fun high => absurd high (Nat.not_le.mpr low)⟩
    | error error =>
      obtain ⟨refusal, same⟩ := settles
      exact ⟨refusal.status, not_reportsConflict_dressed refusal.not_reportsConflict, fun _ => same⟩
  · rw [refused.answer]
    exact ⟨refused.status, refused.not_reportsConflict, fun _ => rfl⟩

end Incoming

/-- **Requests fail cleanly.** After any requests, one after another, on a store that was empty at first,
the response to one more tells neither of a fault of the service nor of a version that was overwritten, and
the request leaves the store as it was if the response tells of an error or if it only asks to read. -/
theorem requests_fail_cleanly (traffic : List Incoming) (incoming : Incoming) :
    let store := Store.empty.after traffic
    let response := incoming.response store
    response.status < 500 ∧ ¬ response.ReportsConflict ∧
      (400 ≤ response.status → incoming.leaves store = store) ∧
      (incoming.request.method = "GET" ∨ incoming.request.method = "HEAD" →
        incoming.leaves store = store) := by
  intro store response
  obtain ⟨status, report, idle⟩ := Incoming.fails_cleanly (Store.Intact.after traffic)
  exact ⟨status, report, idle, Incoming.leaves_of_reads⟩

end Syllabus
