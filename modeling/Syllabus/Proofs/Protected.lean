/-
**Bodies forge nothing.**

What the path says of a record, what the service keeps itself, and the id of a record that is there
already, no body can set: bodies that differ in such fields alone come to the same.

* `RecordKind.shielded` — a record with the fields that are protected from bodies taken from another;
* `Records.update_congr` — an update depends on what it merges, and on nothing else of the change;
* `Records.recordAt_of_update` — in any store, what is found after an update is what was merged, or what
  was found before;
* `Incoming.Rewords` — a request that is asked again with another body;
* `Handler.put_eq`, `Handler.run_put_eq_ok_iff` — the handler of an update, and when it succeeds;
* **`bodies_forge_nothing`** — such a request gets the same response and leaves the same store, and an
  update leaves the protected fields of the record as they were.
-/

import Syllabus.Proofs.Refinement
import Syllabus.Proofs.Roster
import Syllabus.Proofs.Scope

namespace Syllabus

/-! ### Protected fields -/

/-- A course with the fields taken from another that no body can set: the lessons and the time of
creation, which the service keeps, and the id of a course that is there. -/
def Course.shielded (source course : Course) : Verb → Course
  | .post => { course with lessons := source.lessons, createdAt := source.createdAt }
  | _ => { course with
      courseId := source.courseId
      lessons := source.lessons
      createdAt := source.createdAt }

/-- A lesson with the fields taken from another that no body can set: the course, which the path names,
the contents, which the service keeps, and the id of a lesson that is there. -/
def Lesson.shielded (source lesson : Lesson) : Verb → Lesson
  | .post => { lesson with courseRef := source.courseRef, contents := source.contents }
  | _ => { lesson with
      lessonId := source.lessonId
      courseRef := source.courseRef
      contents := source.contents }

/-- A content with the fields taken from another that no body can set: the course, which the path names,
and the id and the lesson of a content that is there. -/
def Content.shielded (source content : Content) : Verb → Content
  | .post => { content with courseRef := source.courseRef }
  | _ => { content with
      contentId := source.contentId
      courseRef := source.courseRef
      lessonRef := source.lessonRef }

/-- A user with the field taken from another that no body can set: the name of a user that is there. -/
def User.shielded (source user : User) : Verb → User
  | .post => user
  | _ => { user with userName := source.userName }

/-- A record with the fields taken from another that no body of the verb can set. -/
def RecordKind.shielded (verb : Verb) : (kind : RecordKind) → (source record : kind.Carrier) →
    kind.Carrier
  | .course, source, record => Course.shielded source record verb
  | .lesson, source, record => Lesson.shielded source record verb
  | .content, source, record => Content.shielded source record verb
  | .user, source, record => User.shielded source record verb

namespace RecordKind

theorem shielded_self (verb : Verb) (kind : RecordKind) (record : kind.Carrier) :
    kind.shielded verb record record = record := by
  cases kind <;> cases verb <;> rfl

/-- An update keeps the protected fields of the record that it changes. -/
theorem shielded_merge (kind : RecordKind) (existing change : kind.Carrier) :
    kind.shielded .put existing (merge existing change) = merge existing change := by
  cases kind <;> rfl

end RecordKind

/-! ### Updates -/

namespace Records

/-- An update depends on where the record is, on its id, and on what is merged into it. -/
theorem update_congr {ρ : Type} [Record ρ] {first second : ρ}
    (place : Record.place first = Record.place second) (id : Record.id first = Record.id second)
    (merged : ∀ existing, merge existing first = merge existing second) :
    update first = update second := by
  unfold update
  rw [place, id]
  refine congrArg (Program.ofExcept _ >>= ·) (funext fun ns => ?_)
  refine congrArg (StoreProgram.call _ _ >>= ·) (funext fun found => ?_)
  cases found with
  | none => rfl
  | some document =>
    refine congrArg (Program.ofExcept _ >>= ·) (funext fun existing => ?_)
    rw [merged existing]

end Records

/-! ### What is found after an update -/

namespace Bson

mutual

/-- What is stored is handed to a decoder to its end. -/
theorem intact_draft : (value : Bson) → value.draft.intact = true
  | .null | .bool _ | .int32 _ | .int64 _ | .double _ | .string _ | .objectId _ | .dateTime _ => rfl
  | .foreign value => by
    rw [draft, Foreign.draft]
    split <;> rfl
  | .scopedScript _ scope => by
    simp [draft, Draft.intact, Draft.membersIntact, membersIntact_fieldsDraft scope]
  | .array items => by simp [draft, Draft.intact, itemsIntact_itemsDraft items]
  | .document fields => by simp [draft, Draft.intact, membersIntact_fieldsDraft fields]

theorem itemsIntact_itemsDraft : (items : List Bson) → Draft.itemsIntact (itemsDraft items) = true
  | [] => rfl
  | item :: items => by
    simp [itemsDraft, Draft.itemsIntact, intact_draft item, itemsIntact_itemsDraft items]

theorem membersIntact_fieldsDraft : (fields : List (String × Bson)) →
    Draft.membersIntact (fieldsDraft fields) = true
  | [] => rfl
  | (_, value) :: fields => by
    simp [fieldsDraft, Draft.membersIntact, intact_draft value, membersIntact_fieldsDraft fields]

end

end Bson

namespace Store

variable {kind : RecordKind} {ns : Namespace} {store next : Store} {id : String}

theorem byId_accepts_eq (id : String) (document : Document) :
    (Filter.byId id).accepts document = valueMatches (document.get? idKey) (.string id) := by
  simp [Filter.accepts, Filter.byId, Condition.holds]

/-- What is found under a key has one. -/
theorem replacement_eq_of_byId {old : Document} (accepted : (Filter.byId id).accepts old = true)
    (new : Document) :
    ∃ key, old.get? idKey = some key ∧ replacement old new = new.insert idKey key := by
  cases keyed : old.get? idKey with
  | none => simp [byId_accepts_eq, keyed, valueMatches] at accepted
  | some key => exact ⟨key, rfl, by rw [replacement, keyed]⟩

/-- A document in the place of another is found under the keys that found the other. -/
theorem byId_accepts_replacement {old : Document} (accepted : (Filter.byId id).accepts old = true)
    (new : Document) : (Filter.byId id).accepts (replacement old new) = true := by
  obtain ⟨key, keyed, put⟩ := replacement_eq_of_byId accepted new
  rwa [put, byId_accepts_eq, Document.get?_insert_self, ← keyed, ← byId_accepts_eq]

/-- A record that is put in the place of a document is read back, whatever the key of the document. -/
theorem decode_replacement {old : Document} (accepted : (Filter.byId id).accepts old = true)
    (version : Int64) (record : kind.Carrier) :
    (Records.decode ns (replacement old (Records.stored id version record)) :
      Except StoreError kind.Carrier) = .ok record := by
  obtain ⟨key, _, put⟩ := replacement_eq_of_byId accepted (Records.stored id version record)
  rw [put, Records.decode, Record.ofDocument_insert_unknown LawfulRecord.id_unlisted key.intact_draft
    (Records.ofDocument_stored id version record)]

/-- **What is found under a key after a guarded write** is what was written, or what was found before
if the write has met a later document of the key. -/
theorem recordAt_replaceOne {before : kind.Carrier}
    (found : store.recordAt kind ns id = some before) (previous : Bson) (version : Int64)
    (record : kind.Carrier) :
    (store.replaceOne ns (.guard id previous) (Records.stored id version record)).2.recordAt kind ns
        id = some record ∨
      (store.replaceOne ns (.guard id previous) (Records.stored id version record)).2.recordAt kind ns
        id = some before := by
  obtain ⟨document, here, decoded⟩ := Option.bind_eq_some_iff.mp found
  have keeps : ∀ other ∈ store.documents ns, (Filter.guard id previous).accepts other = true →
      (Filter.byId id).accepts other = true ∧
      (Filter.byId id).accepts (replacement other (Records.stored id version record)) = true := by
    intro other _ accepted
    cases keyed : (Filter.byId id).accepts other with
    | false =>
      rw [guard_unmet keyed] at accepted
      cases accepted
    | true => exact ⟨rfl, byId_accepts_replacement keyed _⟩
  have after : (store.replaceOne ns (.guard id previous) (Records.stored id version record)).2.findOne
      ns (.byId id) = some (if (Filter.guard id previous).accepts document then
        replacement document (Records.stored id version record) else document) := by
    rw [findOne, documents_replaceOne, find?_changeFirst keeps]
    exact congrArg (Option.map _) here
  rw [recordAt, after]
  split
  · rw [Option.bind_some, decode_replacement (List.find?_some here)]
    exact .inl rfl
  · exact .inr decoded

end Store

namespace Records

/-- **An update that succeeds**, in any store: a record was found, and now the merged one is, or still
the one that was. -/
theorem recordAt_of_update {kind : RecordKind} {change record : kind.Carrier} {spare : ObjectId}
    {store next : Store} (ran : (update change).run (Store.respond spare) store = (.ok record, next)) :
    ∃ ns before, Record.place change = .ok ns ∧
      store.recordAt kind ns (Record.id change) = some before ∧
      (next.recordAt kind ns (Record.id change) = some (merge before change) ∨
        next.recordAt kind ns (Record.id change) = some before) := by
  cases placed : Record.place change with
  | error error =>
    unfold update at ran
    rw [placed] at ran
    cases ran
  | ok ns =>
    rw [run_update placed] at ran
    cases found : store.findOne ns (.byId (Record.id change)) with
    | none =>
      rw [found] at ran
      cases ran
    | some document =>
      simp only [found] at ran
      cases read : (Record.ofDocument document : Except Fault kind.Carrier) with
      | error fault =>
        rw [read] at ran
        cases ran
      | ok before =>
        have here : store.recordAt kind ns (Record.id change) = some before := by
          rw [Store.recordAt, found, Option.bind_some, decode, read]
          rfl
        simp only [read] at ran
        split at ran
        · cases ran
        · split at ran
          · cases ran
          · cases ran
            exact ⟨ns, before, rfl, here, Store.recordAt_replaceOne here _ _ _⟩

end Records

/-! ### Requests with other bodies -/

/-- The kind of the records that the bodies of a route stand for. -/
def Route.kind? : Route → Option RecordKind
  | .health => none
  | .courses | .course _ => some .course
  | .lessons _ | .lesson _ _ => some .lesson
  | .contents _ | .content _ _ => some .content
  | .users | .user _ => some .user

theorem Route.kind?_of_decode {raw route : Route} (decoded : raw.decode = .ok route) :
    route.kind? = raw.kind? := by
  cases raw with
  | health | courses | users => cases decoded; rfl
  | course | lessons | contents | user =>
    obtain ⟨_, _, made⟩ := parameter_of_bind decoded
    cases made
    rfl
  | lesson | content =>
    obtain ⟨_, _, made⟩ := parameter_of_bind decoded
    obtain ⟨_, _, made⟩ := parameter_of_bind made
    cases made
    rfl

namespace Handler

variable {first second : Http.Request}

/-- A handler that decodes two bodies to records with which it goes on alike. -/
theorem body_bind_congr {α : Type} [Codec α] {given told : α}
    (read : Body.decode first = .ok given) (reread : Body.decode second = .ok told)
    {next : α → StoreProgram ApiError Reply} (same : next told = next given) :
    (body second >>= next) = (body first >>= next) := by
  rw [body_bind_of_ok read, body_bind_of_ok reread, same]

/-- **Protected fields make no difference to a handler.** -/
theorem handle_congr (backendName : String) (occasion : Occasion) {verb : Verb} {route : Route}
    {kind : RecordKind} {given told : kind.Carrier} (of : route.kind? = some kind)
    (read : Body.decode first = .ok given) (reread : Body.decode second = .ok told)
    (agree : told = kind.shielded verb told given) :
    handle backendName occasion second verb route = handle backendName occasion first verb route := by
  cases verb <;> cases route <;> cases of <;> try rfl
  case put.course courseId =>
    have same : Records.update { (told : Course) with courseId := courseId } =
        Records.update { (given : Course) with courseId := courseId } :=
      Records.update_congr rfl rfl fun existing => by rw [agree]; rfl
    exact congrArg some (body_bind_congr read reread (by rw [Curriculum.updateCourse, same]; rfl))
  case put.lesson courseRef lessonId =>
    have same : Records.update { (told : Lesson) with courseRef := courseRef, lessonId := lessonId } =
        Records.update { (given : Lesson) with courseRef := courseRef, lessonId := lessonId } :=
      Records.update_congr rfl rfl fun existing => by rw [agree]; rfl
    exact congrArg some (body_bind_congr read reread (by rw [Curriculum.updateLesson, same]; rfl))
  case put.content courseRef contentId =>
    have same : Records.update { (told : Content) with courseRef := courseRef, contentId := contentId } =
        Records.update { (given : Content) with courseRef := courseRef, contentId := contentId } :=
      Records.update_congr rfl rfl fun existing => by rw [agree]; rfl
    exact congrArg some (body_bind_congr read reread (by rw [Curriculum.updateContent, same]; rfl))
  case put.user userName =>
    have same : Records.update { (told : User) with userName := userName } =
        Records.update { (given : User) with userName := userName } :=
      Records.update_congr rfl rfl fun existing => by rw [agree]; rfl
    exact congrArg some (body_bind_congr read reread (by rw [same]))
  case post.courses | post.lessons | post.contents | post.users =>
    exact congrArg some (body_bind_congr read reread (by rw [agree]; rfl))

end Handler

namespace Incoming

/-- The request is asked again with another body. Both bodies decode to records of the kind that the
route is for, which differ in nothing but the fields that the verb protects. -/
structure Rewords (other incoming : Incoming) (verb : Verb) {kind : RecordKind}
    (told given : kind.Carrier) : Prop where
  same : other =
    { incoming with request := { incoming.request with body := other.request.body } }
  route : ∃ raw, Route.ofPath? (Route.path incoming.request.target) = some raw ∧
    raw.kind? = some kind
  method : Verb.ofMethod? incoming.request.method = some verb
  read : Body.decode incoming.request = .ok given
  reread : Body.decode other.request = .ok told
  agree : told = kind.shielded verb told given

namespace Rewords

variable {other incoming : Incoming} {verb : Verb} {kind : RecordKind} {told given : kind.Carrier}

/-- The service does the same with both. -/
theorem serve_eq (rewords : other.Rewords incoming verb told given) (backendName : String) :
    Service.serve backendName other.cors other.occasion other.request =
      Service.serve backendName incoming.cors incoming.occasion incoming.request := by
  obtain ⟨same, ⟨raw, path, of⟩, method, read, reread, agree⟩ := rewords
  have whole : Service.routeWhole backendName incoming.occasion other.request =
      Service.routeWhole backendName incoming.occasion incoming.request := by
    have target : other.request.target = incoming.request.target := by rw [same]
    have asked : other.request.method = incoming.request.method := by rw [same]
    simp only [Service.routeWhole, target, asked, path, method]
    cases decoded : raw.decode with
    | error name => rfl
    | ok route =>
      have handlers := Handler.handle_congr backendName incoming.occasion
        ((Route.kind?_of_decode decoded).trans of) read reread agree
      simp only [handlers]
  rw [same] at whole ⊢
  unfold Service.serve Service.route
  rw [whole]
  rfl

theorem answer_eq (rewords : other.Rewords incoming verb told given) (store : Store) :
    other.answer store = incoming.answer store := by
  have spare : other.spare = incoming.spare := by rw [rewords.same]
  unfold answer
  rw [rewords.serve_eq, spare]

end Rewords

end Incoming

/-! ### Records under the paths of updates -/

/-- The record that a route addresses: its kind, where it is kept, and its id. -/
inductive Route.Names : Route → RecordKind → Namespace → String → Prop
  | course (courseId : String) : Names (.course courseId) .course coursesAt courseId
  | lesson (courseRef lessonId : String) :
      Names (.lesson courseRef lessonId) .lesson (lessonsAt courseRef) lessonId
  | content (courseRef contentId : String) :
      Names (.content courseRef contentId) .content (contentsAt courseRef) contentId
  | user (userName : String) : Names (.user userName) .user usersAt userName

theorem Route.Names.put_mem_verbs {route : Route} {kind : RecordKind} {ns : Namespace} {id : String}
    (names : route.Names kind ns id) : Verb.put ∈ route.verbs := by
  cases names <;> simp [Route.verbs]

/-- The record that is found under a key now has the protected fields of the one that was. -/
def Store.Guards (kind : RecordKind) (ns : Namespace) (id : String) (store next : Store) : Prop :=
  ∃ before after : kind.Carrier, store.recordAt kind ns id = some before ∧
    next.recordAt kind ns id = some after ∧ kind.shielded .put before after = after

namespace Handler

variable {spare : ObjectId} {store next : Store} {reply : Reply}

/-- An update through a handler that succeeds keeps the protected fields. -/
theorem guards_of_update (kind : RecordKind) {change record : kind.Carrier} {ns : Namespace}
    (placed : ∀ found, Record.place change = .ok found → found = ns)
    (ran : (Records.update change).run (Store.respond spare) store = (.ok record, next)) :
    store.Guards kind ns (Record.id change) next := by
  obtain ⟨found, before, place, here, after⟩ := Records.recordAt_of_update ran
  cases placed found place
  rcases after with merged | left
  · exact ⟨before, _, here, merged, kind.shielded_merge before change⟩
  · exact ⟨before, before, here, left, kind.shielded_self .put before⟩

/-- **The handler of an update merges the body into the record that the path addresses**, at its place
and under its id, and tells the record. -/
theorem put_eq {route : Route} {kind : RecordKind} {ns : Namespace} {id : String}
    (names : route.Names kind ns id) (backendName : String) :
    ∃ (address : kind.Carrier → kind.Carrier) (tell : StoreError → ApiError),
      (∀ change, Record.id (address change) = id) ∧
      (∀ change found, Record.place (address change) = .ok found → found = ns) ∧
      ∀ occasion request, handle backendName occasion request .put route =
        some (body request >>= fun change =>
          (Records.update (address change)).mapError tell >>= fun record =>
            .done (.success record)) := by
  cases names with
  | course =>
    refine ⟨fun change : Course => { change with courseId := id }, .ofCurriculum ∘ .store,
      fun _ => rfl, fun _ _ => Course.place_eq, fun occasion request => ?_⟩
    simp only [handle, updateCourse, Curriculum.updateCourse, Curriculum.records, workflow,
      Program.mapError_mapError]
    rfl
  | lesson courseRef =>
    refine ⟨fun change : Lesson => { change with courseRef := courseRef, lessonId := id },
      .ofCurriculum ∘ .store, fun _ => rfl, fun _ _ => Lesson.place_eq, fun occasion request => ?_⟩
    simp only [handle, updateLesson, Curriculum.updateLesson, Curriculum.records, workflow,
      Program.mapError_mapError]
    rfl
  | content courseRef =>
    refine ⟨fun change : Content => { change with courseRef := courseRef, contentId := id },
      .ofCurriculum ∘ .store, fun _ => rfl, fun _ _ => Content.place_eq, fun occasion request => ?_⟩
    simp only [handle, updateContent, Curriculum.updateContent, Curriculum.records, workflow,
      Program.mapError_mapError]
    rfl
  | user =>
    exact ⟨fun change : User => { change with userName := id }, .ofStore, fun _ => rfl,
      fun _ _ placed => (Except.ok.inj placed).symm, fun _ _ => rfl⟩

/-- A handler that starts with the body succeeds if the body decodes and it goes on so. -/
theorem run_body_bind_eq_ok_iff {α : Type} [Codec α] {request : Http.Request}
    {after : α → StoreProgram ApiError Reply} :
    (body request >>= after).run (Store.respond spare) store = (.ok reply, next) ↔
      ∃ value, Body.decode request = .ok value ∧
        (after value).run (Store.respond spare) store = (.ok reply, next) := by
  rw [Program.run_bind_eq_ok_iff]
  constructor
  · rintro ⟨value, middle, read, ran⟩
    rw [body, Program.run_ofExcept, Prod.mk.injEq] at read
    obtain ⟨decoded, rfl⟩ := read
    exact ⟨value, decoded, ran⟩
  · rintro ⟨value, decoded, ran⟩
    exact ⟨value, store, by rw [body, Program.run_ofExcept, decoded], ran⟩

/-- It succeeds if the body decodes and the update succeeds. -/
theorem run_put_eq_ok_iff {kind : RecordKind} {address : kind.Carrier → kind.Carrier}
    {tell : StoreError → ApiError} {request : Http.Request} :
    (body request >>= fun change => (Records.update (address change)).mapError tell >>= fun record =>
        .done (.success record)).run (Store.respond spare) store = (.ok reply, next) ↔
      ∃ change record, Body.decode request = .ok change ∧
        (Records.update (address change)).run (Store.respond spare) store = (.ok record, next) ∧
        reply = .success record := by
  rw [run_body_bind_eq_ok_iff]
  constructor
  · rintro ⟨change, decoded, ran⟩
    obtain ⟨record, last, ran, replied⟩ := Program.run_bind_eq_ok_iff.mp ran
    cases replied
    exact ⟨change, record, decoded, Program.run_mapError_eq_ok_iff.mp ran, rfl⟩
  · rintro ⟨change, record, decoded, ran, rfl⟩
    exact ⟨change, decoded, Program.run_bind_eq_ok_iff.mpr
      ⟨record, next, Program.run_mapError_eq_ok_iff.mpr ran, rfl⟩⟩

/-- **A handler that updates a record keeps its protected fields**, whatever the body says. -/
theorem guards_handle {backendName : String} {occasion : Occasion} {request : Http.Request}
    {route : Route} {program : StoreProgram ApiError Reply} {kind : RecordKind} {ns : Namespace}
    {id : String} (names : route.Names kind ns id)
    (handled : handle backendName occasion request .put route = some program)
    (ran : program.run (Store.respond spare) store = (.ok reply, next)) :
    store.Guards kind ns id next := by
  obtain ⟨address, tell, keyed, placed, handlers⟩ := put_eq names backendName
  cases (handlers occasion request).symm.trans handled
  obtain ⟨change, record, _, ran, _⟩ := run_put_eq_ok_iff.mp ran
  exact keyed change ▸ guards_of_update kind (placed change) ran

end Handler

namespace Incoming

/-- An error is told with the status of one. -/
theorem status_respond_error (error : ApiError) : (Service.respond (.error error)).status ≠ 200 := by
  show error.status ≠ 200
  cases error <;> simp [ApiError.status]

/-- A request that is answered with success has reached a handler, which has succeeded. -/
theorem handled_of_success {incoming : Incoming} {verb : Verb} {route : Route} {store : Store}
    (addressed : incoming.Addresses verb route) (suits : verb ∈ route.verbs)
    (success : (incoming.response store).status = 200) :
    ∃ program reply, incoming.Handled verb route program ∧
      program.run (Store.respond incoming.spare) store = (.ok reply, incoming.leaves store) := by
  obtain ⟨program, handler⟩ := Option.isSome_iff_exists.mp ((Handler.handle_isSome_iff
    Store.backendName incoming.occasion incoming.request verb route).mpr suits)
  have handled : incoming.Handled verb route program := { addressed with handler := handler }
  unfold response at success
  unfold leaves
  rw [handled.answer_eq, status_dressed] at success
  rw [handled.answer_eq]
  cases ran : program.run (Store.respond incoming.spare) store with
  | mk answer next =>
    rw [ran] at success
    cases answer with
    | ok reply => exact ⟨program, reply, handled, ran⟩
    | error error => exact absurd success (status_respond_error error)

/-- **An update that is answered with success keeps the protected fields.** -/
theorem guards_of_put {incoming : Incoming} {route : Route} {kind : RecordKind} {ns : Namespace}
    {id : String} {store : Store} (addressed : incoming.Addresses .put route)
    (names : route.Names kind ns id) (success : (incoming.response store).status = 200) :
    store.Guards kind ns id (incoming.leaves store) := by
  obtain ⟨program, reply, handled, ran⟩ := handled_of_success addressed names.put_mem_verbs success
  exact Handler.guards_handle names handled.handler ran

end Incoming

/-- **Bodies forge nothing.** In any store, a request whose body is put in other words, which differ in
nothing but protected fields, gets the same response and leaves the same store; and an update that is
answered with success leaves the protected fields of the record under its path as they were. -/
theorem bodies_forge_nothing (store : Store) (incoming : Incoming) :
    (∀ (other : Incoming) (verb : Verb) (kind : RecordKind) (told given : kind.Carrier),
      other.Rewords incoming verb told given → other.answer store = incoming.answer store) ∧
    (∀ (route : Route) (kind : RecordKind) (ns : Namespace) (id : String),
      incoming.Addresses .put route → route.Names kind ns id →
      (incoming.response store).status = 200 →
      ∃ before after : kind.Carrier, store.recordAt kind ns id = some before ∧
        (incoming.leaves store).recordAt kind ns id = some after ∧
        kind.shielded .put before after = after) :=
  ⟨fun _ _ _ _ _ rewords => rewords.answer_eq store,
    fun _ _ _ _ addressed names success => Incoming.guards_of_put addressed names success⟩

/-- A request with a body of JSON. -/
def Incoming.ofJson (method target body : String) : Incoming where
  spare := ⟨0⟩
  cors := none
  occasion := ⟨newYear, "fresh"⟩
  request := ⟨method, target, [("content-type", "application/json")], body⟩

/-- A course gets a title. -/
def retitled : Incoming :=
  .ofJson "PUT" "/course/algebra" "[\"\", \"Algebra\"]"

/-- The body says of an id and of a lesson, too. -/
def forged : Incoming :=
  .ofJson "PUT" "/course/algebra"
    "[\"geometry\", \"Algebra\", \"\", [], [], null, null, 0, [], [\"ghost\"]]"

/-- With a new title a course gets neither the id nor the lesson that a body says of. -/
theorem bodies_forge_nothing_of_retitled :
    let store := Store.empty.after [.ofJson "POST" "/course" "[\"algebra\"]"]
    forged.answer store = retitled.answer store ∧
    (retitled.response store).status = 200 ∧
    ∃ before after : Course, store.recordAt .course coursesAt "algebra" = some before ∧
      (retitled.leaves store).recordAt .course coursesAt "algebra" = some after ∧
      RecordKind.course.shielded .put before after = after := by
  intro store
  have path : Route.ofPath? (Route.path retitled.request.target) = some (.course "algebra") := by
    decide +kernel
  have reworded : @Incoming.Rewords forged retitled .put .course
      { Course.withId "geometry" with title := "Algebra", lessons := ["ghost"] }
      { Course.blank with title := "Algebra" } :=
    { same := rfl
      route := ⟨_, path, rfl⟩
      method := rfl
      read := by decide +kernel
      reread := by decide +kernel
      agree := rfl }
  have addressed : retitled.Addresses .put (.course "algebra") :=
    { path := ⟨_, path, by decide +kernel⟩
      method := rfl }
  have success : (retitled.response store).status = 200 := by decide +kernel
  obtain ⟨same, kept⟩ := bodies_forge_nothing store retitled
  exact ⟨same forged .put .course _ _ reworded, success, kept _ _ _ _ addressed (.course "algebra") success⟩

end Syllabus
