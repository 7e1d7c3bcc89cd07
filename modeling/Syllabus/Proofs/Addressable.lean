/-
**Stored documents stay addressable.**

Whatever requests were served, one after another, every document of the store is one that the
operations on records have written: it lies where records of its kind are kept, decodes, and is found
under its key alone.

* `Document.Filed` — the document of a record at its place, under a key that is no empty text, at a
  version up to a bound; `Store.Filed` — every document is one;
* `Store.Patched.filed` — what a write has to put there for the documents to stay filed;
* `Program.Files` — from filed documents a run leaves filed ones, sequenced by `Files.bind`;
  `Records.files_update`, `Curriculum.files_createLesson`, `Handler.files_handle` — one change counts
  once at most in every request;
* `Store.Addresses` — what a client can rely on of a document that is stored;
* **`documents_stay_addressable`** — every document, after any requests.
-/

import Syllabus.Proofs.CleanFailure

namespace Syllabus

/-! ### Documents as the operations on records write them -/

/-- The document of a record at its place, under an id that is no empty text, whose version counts the
record's creation and so many changes at most. -/
def Document.Filed (changes : Nat) (ns : Namespace) (document : Document) : Prop :=
  ∃ (kind : RecordKind) (record : kind.Carrier) (count : Nat),
    Record.place record = .ok ns ∧ Record.id record ≠ "" ∧ 1 ≤ count ∧ count ≤ changes + 1 ∧
    document = Records.stored (Record.id record) (Int64.ofNat count) record

/-- Every document of the store is filed where it lies. -/
def Store.Filed (changes : Nat) (store : Store) : Prop :=
  ∀ ns, ∀ document ∈ store.documents ns, document.Filed changes ns

/-- Records at one place are of one kind. -/
theorem RecordKind.eq_of_place {kind other : RecordKind} {record : kind.Carrier}
    {neighbour : other.Carrier} {ns : Namespace} (placed : Record.place record = .ok ns)
    (beside : Record.place neighbour = .ok ns) : other = kind := by
  obtain ⟨c, here⟩ := RecordKind.home_of_place placed
  obtain ⟨d, there⟩ := RecordKind.home_of_place beside
  exact RecordKind.eq_of_home_eq (there.symm.trans here)

theorem Document.Filed.mono {changes more : Nat} (le : changes ≤ more) {ns : Namespace}
    {document : Document} (filed : document.Filed changes ns) : document.Filed more ns := by
  obtain ⟨kind, record, count, placed, named, positive, counted, written⟩ := filed
  exact ⟨kind, record, count, placed, named, positive, by omega, written⟩

/-- What is filed at the place of a record is the document of a record of its kind. -/
theorem Document.Filed.of_place {changes : Nat} {ns : Namespace} {document : Document}
    (filed : document.Filed changes ns) {kind : RecordKind} {neighbour : kind.Carrier}
    (beside : Record.place neighbour = .ok ns) :
    ∃ (record : kind.Carrier) (count : Nat), Record.place record = .ok ns ∧ Record.id record ≠ "" ∧
      1 ≤ count ∧ count ≤ changes + 1 ∧
      document = Records.stored (Record.id record) (Int64.ofNat count) record := by
  obtain ⟨other, record, count, placed, rest⟩ := filed
  cases RecordKind.eq_of_place beside placed
  exact ⟨record, count, placed, rest⟩

namespace Store

variable {changes more : Nat} {old next : Store} {ns : Namespace}

theorem Filed.mono (le : changes ≤ more) {store : Store} (filed : store.Filed changes) :
    store.Filed more :=
  fun ns document member => (filed ns document member).mono le

/-- The empty store files nothing. -/
theorem filed_empty : Store.empty.Filed 0 :=
  fun _ _ member => absurd member List.not_mem_nil

/-- A write leaves the documents filed if what it put there is. -/
theorem Patched.filed {before after : Option Document} (patched : old.Patched next ns before after)
    (filed : old.Filed changes) (le : changes ≤ more)
    (written : ∀ document, after = some document → document.Filed more ns) : next.Filed more := by
  intro other document member
  by_cases here : other = ns
  · subst here
    rcases patched.mem member with before | after
    · exact (filed _ document before).mono le
    · exact written document after
  · rw [patched.elsewhere _ here] at member
    exact (filed other document member).mono le

end Store

/-! ### Programs -/

namespace Program

variable {spare : ObjectId} {changes next more : Nat} {ε ε' α β : Type}

/-- From documents that are filed with so many changes, a run leaves documents filed with so many. -/
def Files (spare : ObjectId) (changes more : Nat) (program : StoreProgram ε α) : Prop :=
  ∀ store : Store, store.Filed changes → (program.run (Store.respond spare) store).2.Filed more

namespace Files

theorem mono {program : StoreProgram ε α} (files : Files spare changes next program)
    (le : next ≤ more) : Files spare changes more program :=
  fun store filed => (files store filed).mono le

theorem done (value : α) : Files spare changes changes (.done value : StoreProgram ε α) :=
  fun _ filed => filed

theorem fail (error : ε) : Files spare changes changes (.fail error : StoreProgram ε α) :=
  fun _ filed => filed

/-- Reading leaves the documents. -/
theorem of_reads {program : StoreProgram ε α} (reads : program.Asks Call.Reads) :
    Files spare changes changes program := by
  intro store filed
  rwa [reads.run_reads]

theorem ask {call : Call} {rest : call.Answer → StoreProgram ε α}
    (first : ∀ store : Store, store.Filed changes → (store.respond spare call).2.Filed next)
    (last : ∀ answer, Files spare next more (rest answer)) :
    Files spare changes more (.ask call rest) :=
  fun store filed => last _ _ (first store filed)

theorem bind {program : StoreProgram ε α} {rest : α → StoreProgram ε β}
    (first : Files spare changes next program) (last : ∀ value, Files spare next more (rest value))
    (le : next ≤ more) : Files spare changes more (program >>= rest) := by
  intro store filed
  have reached := first store filed
  rw [run_bind]
  generalize program.run (Store.respond spare) store = ran at reached ⊢
  obtain ⟨answer, store⟩ := ran
  cases answer with
  | ok value => exact last value store reached
  | error error => exact reached.mono le

/-- What is known before any call may be used for what follows. -/
theorem ofExcept_bind {value : Except ε α} {rest : α → StoreProgram ε β} (le : changes ≤ more)
    (last : ∀ known, value = .ok known → Files spare changes more (rest known)) :
    Files spare changes more (Program.ofExcept value >>= rest) := by
  cases value with
  | ok known => exact last known rfl
  | error error => exact (fail error).mono le

theorem mapError {program : StoreProgram ε α} (files : Files spare changes more program)
    (change : ε → ε') : Files spare changes more (program.mapError change) := by
  intro store filed
  rw [run_mapError]
  exact files store filed

end Files

end Program

namespace Records

open Program (Files)

variable {spare : ObjectId} {changes : Nat} {kind : RecordKind}

theorem files_call {operation : Operation} {request : Request} {more : Nat}
    (files : ∀ store : Store, store.Filed changes →
      (store.respond spare ⟨operation, request⟩).2.Filed more) :
    Files spare changes more (StoreProgram.call operation request) := by
  refine .ask files fun answer => ?_
  cases answer with
  | ok value => exact .done value
  | error error => exact .fail error

theorem files_checkUnique (kind : RecordKind) (record : kind.Carrier) :
    Files spare changes changes (checkUnique record) := by
  cases placed : Record.place record with
  | error error =>
    unfold checkUnique
    rw [placed]
    exact .fail error
  | ok ns => exact .of_reads ((asks_checkUnique placed).mono fun _ counts => counts.reads)

/-- A new record is filed if it has an id. -/
theorem files_create (kind : RecordKind) (record : kind.Carrier) (named : Record.id record ≠ "") :
    Files spare changes changes (create record) := by
  refine .ofExcept_bind (Nat.le_refl _) fun ns placed => ?_
  refine .bind (files_call fun store filed => ?_) (fun _ => .done ()) (Nat.le_refl _)
  rw [Store.respond_insertOne]
  rcases store.insertOne_cases spare ns (get?_stored_id (Record.id record) 1 record) with
    ⟨error, same⟩ | ⟨_, patched⟩
  · rw [same]
    exact filed
  · refine patched.filed filed (Nat.le_refl _) ?_
    rintro document ⟨⟩
    exact ⟨kind, record, 1, placed, named, Nat.le_refl _, Nat.le_add_left .., rfl⟩

theorem files_delete (kind : RecordKind) (template : kind.Carrier) :
    Files spare changes changes (delete template) := by
  refine .ofExcept_bind (Nat.le_refl _) fun ns _ => ?_
  refine .bind (files_call fun store filed => ?_) (fun deleted => ?_) (Nat.le_refl _)
  · rw [Store.respond_deleteOne]
    rcases store.deleteOne_cases ns (.byId (Record.id template)) with same | ⟨_, _, _, patched⟩
    · rw [same]
      exact filed
    · exact patched.filed filed (Nat.le_refl _) nofun
  · split
    · exact .fail _
    · exact .done ()

/-- What is left of an update that has read a filed record writes a filed one. -/
theorem files_of_settling {α : Type} {ns : Namespace} {record : kind.Carrier} {count : Nat}
    {result : α} {program : StoreProgram StoreError α} (placed : Record.place record = .ok ns)
    (named : Record.id record ≠ "") (counted : count ≤ changes + 1)
    (settling : Settling ns (Record.id record) (Int64.ofNat count) record result program) :
    Files spare changes (changes + 1) program := by
  induction settling with
  | failed error => exact (Files.fail error).mono (Nat.le_succ _)
  | checking filter next _ ih => exact .ask (fun store filed => filed) ih
  | writing next ends =>
    refine .ask (fun store filed => (?_ : Store.Filed (changes + 1) _)) fun answer => ?_
    · rw [Store.respond_replaceOne]
      rcases store.replaceOne_cases ns (.guard (Record.id record) (.int64 (Int64.ofNat count)))
        (stored (Record.id record) (Int64.ofNat count + 1) record) with same | ⟨old, found, _, patched⟩
      · rw [same]
        exact filed.mono (Nat.le_succ _)
      · obtain ⟨before, _, _, _, _, _, rfl⟩ :=
          (filed ns old (List.mem_of_find?_eq_some found)).of_place placed
        have accepted := List.find?_some found
        rw [Filter.guard, guard_accepts_stored, Bool.and_eq_true, beq_iff_eq] at accepted
        rw [accepted.1, replacement_stored (get?_stored_id ..)] at patched
        refine patched.filed filed (Nat.le_succ _) ?_
        rintro document ⟨⟩
        refine ⟨kind, record, count + 1, placed, named, Nat.le_add_left .., by omega, ?_⟩
        rw [Int64.ofNat_add]
        rfl
    · rw [ends]
      unfold settled
      split
      · exact .fail _
      · split
        · exact .fail _
        · exact .done result

theorem files_update (kind : RecordKind) (change : kind.Carrier) :
    Files spare changes (changes + 1) (update change) := by
  cases placed : Record.place change with
  | error error =>
    unfold update
    rw [placed]
    exact (Files.fail error).mono (Nat.le_succ _)
  | ok ns =>
    obtain ⟨next, first, missing, settling⟩ := update_eq_ask placed rfl
    intro store filed
    rw [first]
    show ((next (.ok (store.findOne ns (.byId (Record.id change))))).run _ store).2.Filed _
    cases found : store.findOne ns (.byId (Record.id change)) with
    | none =>
      rw [missing]
      exact filed.mono (Nat.le_succ _)
    | some document =>
      obtain ⟨record, count, here, named, _, counted, rfl⟩ :=
        (filed ns document (List.mem_of_find?_eq_some found)).of_place placed
      have answers := List.find?_some found
      rw [byId_accepts_stored, beq_iff_eq] at answers
      have kept : Record.id (merge record change) = Record.id change :=
        (LawfulRecord.id_merge record change).trans answers
      have left := settling (Int64.ofNat count) record
      rw [← kept] at left
      rw [answers, ← kept]
      exact files_of_settling ((place_merge record change).trans here)
        (by rwa [LawfulRecord.id_merge]) counted left store filed

/-- An edit of a membership list of a filed record leaves a filed one. -/
theorem files_sync (listing : Listing kind) (parent : kind.Carrier) (membership : Membership)
    (child : String) :
    Files spare changes (changes + 1) (sync parent membership listing.field child) := by
  refine .ofExcept_bind (Nat.le_succ _) fun ns placed => files_call fun store filed => ?_
  rw [Store.respond_editMembership]
  rcases store.editMembership_cases ns (Record.id parent) membership listing.field (.string child)
    with ⟨error, same⟩ | ⟨document, edited, found, made, _, patched⟩
  · rw [same]
    exact filed.mono (Nat.le_succ _)
  · obtain ⟨record, count, here, named, positive, counted, rfl⟩ :=
      (filed ns document (List.mem_of_find?_eq_some found)).of_place placed
    rw [listing.withMembership_stored] at made
    refine patched.filed filed (Nat.le_succ _) ?_
    rintro document ⟨⟩
    have place : Record.place (listing.edited membership child record) = .ok ns :=
      (listing.place_edited ..).trans here
    have id := listing.id_edited membership child record
    rw [← id] at named made
    cases made
    split
    · exact ⟨kind, _, count, place, named, positive, by omega, rfl⟩
    · refine ⟨kind, _, count + 1, place, named, Nat.le_add_left .., by omega, ?_⟩
      rw [Int64.ofNat_add]
      rfl

end Records

namespace Curriculum

open Program (Files)

variable {spare : ObjectId} {changes : Nat}

theorem files_ensureEmpty (kind : RecordKind) (id field : String) (children : List String) :
    Files spare changes changes (ensureEmpty kind id field children) := by
  unfold ensureEmpty
  split
  · exact .done ()
  · exact .fail _

/-- A course is created under an id that can name a database, which no empty text can. -/
theorem files_createCourse (now : Instant) (course : Course) :
    Files spare changes changes (createCourse now course) := by
  unfold createCourse
  cases usable : checkDatabaseName course.courseId with
  | error error => exact .fail _
  | ok _ =>
    have named : course.courseId ≠ "" := by
      intro empty
      rw [empty] at usable
      cases usable
    let created : Course := { course with lessons := [], createdAt := some now }
    show Files _ _ _ (records (Records.checkUnique created) >>= fun _ =>
      records (Records.create created) >>= fun _ => .done created)
    refine .bind (.mapError (Records.files_checkUnique .course created) _) (fun _ => ?_)
      (Nat.le_refl _)
    exact .bind (.mapError (Records.files_create .course created named) _)
      (fun _ => .done _) (Nat.le_refl _)

theorem files_deleteCourse (courseId : String) :
    Files spare changes changes (deleteCourse courseId) :=
  .bind (.mapError (.of_reads (Records.asks_get _)) _)
    (fun course => .bind (files_ensureEmpty _ _ _ _)
      (fun _ => .mapError (Records.files_delete .course course) _) (Nat.le_refl _))
    (Nat.le_refl _)

theorem files_createLesson {lesson : Lesson} (named : lesson.lessonId ≠ "") :
    Files spare changes (changes + 1) (createLesson lesson) := by
  refine .bind (.mapError (.of_reads (Records.asks_get _)) _) (fun course => ?_) (Nat.le_succ _)
  refine .bind (.mapError (Records.files_checkUnique .lesson _) _) (fun _ => ?_)
    (Nat.le_succ _)
  refine .bind (.mapError (Records.files_create .lesson { lesson with contents := [] } named) _)
    (fun _ => ?_) (Nat.le_succ _)
  exact .bind (.mapError (Records.files_sync .lessons course .push lesson.lessonId) _)
    (fun _ => .done _) (Nat.le_refl _)

theorem files_deleteLesson (courseRef lessonId : String) :
    Files spare changes (changes + 1) (deleteLesson courseRef lessonId) := by
  refine .bind (.mapError (.of_reads (Records.asks_get _)) _) (fun lesson => ?_) (Nat.le_succ _)
  refine .bind (files_ensureEmpty _ _ _ _) (fun _ => ?_) (Nat.le_succ _)
  refine .bind (.mapError (Records.files_delete .lesson lesson) _) (fun _ => ?_)
    (Nat.le_succ _)
  exact .mapError (Records.files_sync .lessons (Course.withId courseRef) .pull lessonId) _

theorem files_createContent {content : Content} (named : content.contentId ≠ "") :
    Files spare changes (changes + 1) (createContent content) := by
  refine .bind (.mapError (.of_reads (Records.asks_get _)) _) (fun lesson => ?_) (Nat.le_succ _)
  refine .bind (.mapError (Records.files_checkUnique .content _) _) (fun _ => ?_)
    (Nat.le_succ _)
  refine .bind (.mapError (Records.files_create .content content named) _) (fun _ => ?_)
    (Nat.le_succ _)
  exact .bind (.mapError (Records.files_sync .contents lesson .push content.contentId) _)
    (fun _ => .done _) (Nat.le_refl _)

theorem files_deleteContent (courseRef contentId : String) :
    Files spare changes (changes + 1) (deleteContent courseRef contentId) := by
  refine .bind (.mapError (.of_reads (Records.asks_get _)) _) (fun content => ?_) (Nat.le_succ _)
  refine .bind (.mapError (Records.files_delete .content content) _) (fun _ => ?_)
    (Nat.le_succ _)
  exact .mapError (Records.files_sync .contents (Lesson.withId courseRef content.lessonRef) .pull
    contentId) _

end Curriculum

/-! ### Requests -/

namespace Handler

open Program (Files)
open Curriculum

variable {spare : ObjectId} {changes : Nat}

/-- A request that answers with what a program returned. -/
theorem files_reply {ε α : Type} {program : StoreProgram ε α} {tell : ε → ApiError}
    {reply : α → Reply} (files : Files spare changes (changes + 1) program) :
    Files spare changes (changes + 1)
      (program.mapError tell >>= fun value => pure (reply value)) :=
  .bind (.mapError files tell) (fun _ => .done _) (Nat.le_refl _)

theorem files_body {α : Type} [Codec α] (request : Http.Request)
    {next : α → StoreProgram ApiError Reply}
    (rest : ∀ value, Files spare changes (changes + 1) (next value)) :
    Files spare changes (changes + 1) (body request >>= next) :=
  .ofExcept_bind (Nat.le_succ _) fun value _ => rest value

theorem idOrFresh_ne_empty {occasion : Occasion} (named : occasion.freshId ≠ "") (id : String) :
    idOrFresh occasion id ≠ "" := by
  unfold idOrFresh
  split
  · exact named
  · next given => simpa using given

/-- **Every request changes filed documents to filed ones**, and counts one change at most. -/
theorem files_handle {backendName : String} {occasion : Occasion} {request : Http.Request}
    {verb : Verb} {route : Route} {program : StoreProgram ApiError Reply}
    (named : occasion.freshId ≠ "")
    (handled : handle backendName occasion request verb route = some program) :
    Files spare changes (changes + 1) program := by
  have quiet : ∀ {ε α : Type} {program : StoreProgram ε α}, Files spare changes changes program →
      Files spare changes (changes + 1) program := fun files => files.mono (Nat.le_succ _)
  cases verb <;> cases route <;> cases handled
  case get.health => exact files_reply (quiet (.of_reads Records.asks_ping))
  case get.courses | get.lessons | get.contents | get.users =>
    exact files_reply (quiet (.of_reads (Records.asks_list _)))
  case get.course | get.lesson | get.content | get.user =>
    exact files_reply (quiet (.of_reads (Records.asks_get _)))
  case post.courses =>
    exact files_body request fun course => files_reply (quiet (files_createCourse occasion.now course))
  case put.course courseId =>
    exact files_body request fun change =>
      files_reply (.mapError (Records.files_update .course _) _)
  case delete.course courseId => exact files_reply (quiet (files_deleteCourse courseId))
  case post.lessons courseRef =>
    exact files_body request fun lesson =>
      files_reply (files_createLesson (idOrFresh_ne_empty named lesson.lessonId))
  case put.lesson courseRef lessonId =>
    exact files_body request fun change =>
      files_reply (.mapError (Records.files_update .lesson _) _)
  case delete.lesson courseRef lessonId => exact files_reply (files_deleteLesson courseRef lessonId)
  case post.contents courseRef =>
    refine files_body request fun content => ?_
    split
    · exact quiet (.fail _)
    · exact files_reply (files_createContent (idOrFresh_ne_empty named content.contentId))
  case put.content courseRef contentId =>
    exact files_body request fun change =>
      files_reply (.mapError (Records.files_update .content _) _)
  case delete.content courseRef contentId =>
    exact files_reply (files_deleteContent courseRef contentId)
  case post.users =>
    refine files_body request fun user => ?_
    split
    · exact quiet (.fail _)
    · next given =>
      have named : user.userName ≠ "" := by simpa using given
      exact quiet (.bind (.mapError (Records.files_checkUnique .user user) _)
        (fun _ => .bind (.mapError (Records.files_create .user user named) _)
          (fun _ => .done _) (Nat.le_refl _)) (Nat.le_refl _))
  case put.user userName =>
    exact files_body request fun change => files_reply (Records.files_update .user _)
  case delete.user userName =>
    exact files_reply (quiet (Records.files_delete .user _))

end Handler

namespace Store.Filed

variable {changes : Nat} {store : Store}

theorem leaves (filed : store.Filed changes) {incoming : Incoming}
    (named : incoming.occasion.freshId ≠ "") : (incoming.leaves store).Filed (changes + 1) := by
  unfold Incoming.leaves
  rcases incoming.handled_or_refused with ⟨verb, route, program, handled⟩ | ⟨response, refused⟩
  · rw [handled.answer_eq]
    exact Handler.files_handle named handled.handler store filed
  · rw [refused.answer]
    exact filed.mono (Nat.le_succ _)

/-- After any requests the documents are filed, and count no more changes than there were requests. -/
theorem after (filed : store.Filed changes) (traffic : List Incoming)
    (named : ∀ incoming ∈ traffic, incoming.occasion.freshId ≠ "") :
    (store.after traffic).Filed (changes + traffic.length) := by
  induction traffic generalizing store changes with
  | nil => exact filed
  | cons incoming rest ih =>
    have left := ih (filed.leaves (named incoming List.mem_cons_self))
      fun other member => named other (List.mem_cons_of_mem _ member)
    rwa [Nat.add_assoc, Nat.add_comm 1] at left

end Store.Filed

/-! ### What is stored -/

/-- Where records of a kind may lie: courses and users in one namespace each, lessons and contents in
the database of a course, whose name is usable for one. -/
def RecordKind.Houses : RecordKind → Namespace → Prop
  | .course, ns => ns = coursesAt
  | .user, ns => ns = usersAt
  | .lesson, ns => ∃ c, isDatabaseName c = true ∧ ns = lessonsAt c
  | .content, ns => ∃ c, isDatabaseName c = true ∧ ns = contentsAt c

theorem RecordKind.houses_of_place {kind : RecordKind} {record : kind.Carrier} {ns : Namespace}
    (placed : Record.place record = .ok ns) : kind.Houses ns := by
  cases kind with
  | course | user => exact (Except.ok.inj placed).symm
  | lesson | content =>
    obtain ⟨same, usable⟩ := RecordKind.resolve_of_course rfl placed
    exact ⟨_, usable, same⟩

/-- A record lies in the database of its course. -/
theorem Record.database_of_place {kind : RecordKind} {record : kind.Carrier} {ns : Namespace}
    (placed : Record.place record = .ok ns) {c : String} (within : Record.course? record = some c) :
    ns.database = c := by
  cases kind with
  | course | user => cases within
  | lesson | content =>
    cases within
    exact congrArg Namespace.database (RecordKind.resolve_of_course rfl placed).1

/-- The document lies where records of a kind do and stands for this record: it decodes to it, is under
its id, which is no empty text, at this version, and no other document of its namespace is found under
the id. A record of a course lies in the database of the course. -/
structure Store.Addresses (store : Store) (ns : Namespace) (document : Document) {kind : RecordKind}
    (record : kind.Carrier) (version : Int64) : Prop where
  housed : kind.Houses ns
  decodes : Record.ofDocument document = .ok record
  keyed : document.get? idKey = some (.string (Record.id record))
  named : Record.id record ≠ ""
  within : ∀ c, Record.course? record = some c → ns.database = c
  versioned : document.get? versionKey = some (.int64 version)
  counted : 1 ≤ version.toInt
  alone : (store.documents ns).filter (Filter.byId (Record.id record)).accepts = [document]

namespace Store

/-- Of entries with different keys one is found under the key of each. -/
theorem Shelf.filter_key_of_mem {ρ : Type} [Record ρ] {entries : List (Entry ρ)}
    (distinct : (entries.map Entry.key).Nodup) {entry : Entry ρ} (member : entry ∈ entries) :
    entries.filter (·.key == entry.key) = [entry] := by
  induction entries with
  | nil => cases member
  | cons first rest ih =>
    obtain ⟨fresh, distinct⟩ := List.nodup_cons.mp distinct
    rcases List.mem_cons.mp member with rfl | member
    · have others : rest.filter (·.key == entry.key) = [] := by
        rw [List.filter_eq_nil_iff]
        exact fun other among same => fresh (beq_iff_eq.mp same ▸ List.mem_map_of_mem among)
      rw [List.filter_cons_of_pos (by simp), others]
    · have apart : ¬ (first.key == entry.key) = true := fun same =>
        fresh (beq_iff_eq.mp same ▸ List.mem_map_of_mem member)
      rw [List.filter_cons, if_neg apart, ih distinct member]

/-- Of the documents of a shelf one is found under the key of each. -/
theorem Shelf.filter_byId {ρ : Type} [Record ρ] {store : Store} {ns : Namespace}
    {entries : List (Entry ρ)} (shelf : store.Shelf ns entries) {entry : Entry ρ}
    (member : entry ∈ entries) :
    (store.documents ns).filter (Filter.byId entry.key).accepts = [entry.document] := by
  have answers : (Filter.byId entry.key).accepts ∘ Entry.document =
      fun other : Entry ρ => other.key == entry.key := by
    funext other
    exact Records.byId_accepts_stored ..
  rw [shelf.documents, List.filter_map, answers, filter_key_of_mem shelf.distinct member]
  rfl

/-- A filed document on a shelf is addressable, as long as the count of changes has not come round. -/
theorem Filed.addresses {changes : Nat} {store : Store} (filed : store.Filed changes)
    (few : changes + 1 < 2 ^ 63) {ledger : Ledger} (reflects : store.Reflects ledger)
    {ns : Namespace} {document : Document} (member : document ∈ store.documents ns) :
    ∃ (kind : RecordKind) (record : kind.Carrier) (version : Int64),
      store.Addresses ns document record version := by
  obtain ⟨kind, record, count, placed, named, positive, counted, written⟩ := filed ns document member
  obtain ⟨c, rfl⟩ := RecordKind.home_of_place placed
  obtain ⟨entries, shelf, _⟩ := reflects kind c
  obtain ⟨entry, known, same⟩ := List.mem_map.mp (shelf.documents ▸ member)
  have keyed : entry.key = Record.id record := by
    have key := congrArg (Document.get? idKey) (same.trans written)
    simpa [Entry.document] using key
  have number : (Int64.ofNat count).toInt = count := Int64.toInt_ofNat_of_lt (by omega)
  refine ⟨kind, record, Int64.ofNat count, RecordKind.houses_of_place placed, ?_, ?_, named,
    fun c within => Record.database_of_place placed within, ?_, by omega, ?_⟩
  · rw [written, Records.ofDocument_stored]
  · rw [written, Records.get?_stored_id]
  · rw [written, Records.get?_stored_version]
  · rw [← keyed, shelf.filter_byId known, same]

end Store

/-- **Stored documents stay addressable.** After any requests, one after another, on a store that was
empty at first, every document lies where records of its kind do, decodes to a record of this kind, is
found under the id of the record alone, and has counted its changes from one on. Ids that are made for
records without one are taken to be no empty texts, and there are fewer requests than versions. -/
theorem documents_stay_addressable (traffic : List Incoming) (few : traffic.length < 2 ^ 63 - 1)
    (named : ∀ incoming ∈ traffic, incoming.occasion.freshId ≠ "") :
    ∀ ns, ∀ document ∈ (Store.empty.after traffic).documents ns,
      ∃ (kind : RecordKind) (record : kind.Carrier) (version : Int64),
        (Store.empty.after traffic).Addresses ns document record version := by
  intro ns document member
  have filed := Store.filed_empty.after traffic named
  obtain ⟨ledger, reflects⟩ := (Store.Intact.after traffic).reflects
  exact filed.addresses (by omega) reflects member

/-- A course, and a lesson of it whose body gives no id. -/
def firstLesson : List Incoming :=
  let post (target body : String) : Incoming :=
    { spare := ⟨0⟩
      cors := none
      occasion := ⟨newYear, "lesson-1"⟩
      request := ⟨"POST", target, [("content-type", "application/json")], body⟩ }
  [post "/course" "\x7b\"courseId\":\"algebra\"\x7d", post "/course/algebra/lesson" "\x7b\x7d"]

/-- The lesson is stored under the id that was made for it, and the course that lists it at its second
version. -/
theorem documents_stay_addressable_of_firstLesson :
    let store := Store.empty.after firstLesson
    firstLesson.length < 2 ^ 63 - 1 ∧
    (∀ incoming ∈ firstLesson, incoming.occasion.freshId ≠ "") ∧
    store.count (lessonsAt "algebra") (.byId "lesson-1") = 1 ∧
    store.count coursesAt (.guard "algebra" (.int64 2)) = 1 ∧
    ∀ ns, ∀ document ∈ store.documents ns,
      ∃ (kind : RecordKind) (record : kind.Carrier) (version : Int64),
        store.Addresses ns document record version :=
  ⟨by decide, by decide, by decide +kernel, by decide +kernel,
    documents_stay_addressable firstLesson (by decide) (by decide)⟩

end Syllabus
