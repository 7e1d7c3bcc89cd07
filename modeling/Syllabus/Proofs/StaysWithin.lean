/-
**Programs that keep to one course.**

A request on a course, a lesson or a content works on the records of one course: on the document with the
course's id, and on the lessons and contents in its database. What it asks for next may rest on records that
it has read, which belong to the course as long as the documents of the store stand for records.

* `Program.Confined` — all questions of a program have a property, as long as the answers are as expected;
  closed under sequencing;
* `Confined.preserves`, **`Confined.run_agrees`** — one run keeps, and two runs have in common, what single
  answers keep and have in common;
* `Request.OfCourse` — the requests on the records of one course;
* `Records.confined_get`, `Records.confined_update` and the like, `Curriculum.confined_createLesson` and the
  like — the operations on records and the workflows keep to one course.
-/

import Syllabus.Proofs.Regular

namespace Syllabus

namespace Program

variable {Q : Type} {A : Q → Type} {ε ε' α β σ : Type}

/-- All questions of the program have a property, as long as the answers are as expected, and so have the
values that it returns. -/
inductive Confined (asks : Q → Prop) (expects : (question : Q) → A question → Prop)
    (ends : α → Prop) : Program Q A ε α → Prop
  | done (value : α) : ends value → Confined asks expects ends (.done value)
  | fail (error : ε) : Confined asks expects ends (.fail error)
  | ask (question : Q) (next : A question → Program Q A ε α) : asks question →
      (∀ answer, expects question answer → Confined asks expects ends (next answer)) →
      Confined asks expects ends (.ask question next)

namespace Confined

variable {asks : Q → Prop} {expects : (question : Q) → A question → Prop} {ends : α → Prop}
  {program : Program Q A ε α}

theorem bind {last : β → Prop} (first : Confined asks expects ends program)
    {next : α → Program Q A ε β} (rest : ∀ value, ends value → Confined asks expects last (next value)) :
    Confined asks expects last (program >>= next) := by
  induction first with
  | done value holds => exact rest value holds
  | fail error => exact .fail error
  | ask question next here _ ih => exact .ask question _ here ih

theorem mapError (confined : Confined asks expects ends program) (change : ε → ε') :
    Confined asks expects ends (program.mapError change) := by
  induction confined with
  | done value holds => exact .done value holds
  | fail error => exact .fail _
  | ask question next here _ ih => exact .ask question _ here ih

theorem mono {ends' : α → Prop} (confined : Confined asks expects ends program)
    (weaker : ∀ value, ends value → ends' value) : Confined asks expects ends' program := by
  induction confined with
  | done value holds => exact .done value (weaker value holds)
  | fail error => exact .fail error
  | ask question next here _ ih => exact .ask question _ here ih

theorem ofExcept (value : Except ε α) :
    Confined asks expects (fun result => value = .ok result)
      (Program.ofExcept value : Program Q A ε α) := by
  cases value with
  | ok value => exact .done value rfl
  | error error => exact .fail error

/-- Where nothing is expected of the answers, all questions that can come have the property. -/
theorem of_asks (all : program.Asks asks) :
    Confined asks (fun _ _ => True) (fun _ => True) program := by
  induction all with
  | done value => exact .done value trivial
  | fail error => exact .fail error
  | ask question next here _ ih => exact .ask question next here fun answer _ => ih answer

variable {respond : (question : Q) → σ → A question × σ}

/-- What the answers keep, a run keeps. -/
theorem preserves {Inv : σ → Prop} (confined : Confined asks expects ends program)
    (step : ∀ question state, asks question → Inv state →
      expects question (respond question state).1 ∧ Inv (respond question state).2) :
    Preserves respond Inv program := by
  intro state start
  induction confined generalizing state with
  | done value holds => exact start
  | fail error => exact start
  | ask question next here _ ih =>
    obtain ⟨expected, kept⟩ := step question state here start
    exact ih _ expected _ kept

/-- **What two states answer alike, two runs come to alike.** -/
theorem run_agrees {Agree : σ → σ → Prop} (confined : Confined asks expects ends program)
    (step : ∀ question old new, asks question → Agree old new →
      (respond question old).1 = (respond question new).1 ∧
        expects question (respond question old).1 ∧
        Agree (respond question old).2 (respond question new).2)
    {old new : σ} (start : Agree old new) :
    (program.run respond old).1 = (program.run respond new).1 ∧
      Agree (program.run respond old).2 (program.run respond new).2 := by
  induction confined generalizing old new with
  | done value holds => exact ⟨rfl, start⟩
  | fail error => exact ⟨rfl, start⟩
  | ask question next here _ ih =>
    obtain ⟨same, expected, agree⟩ := step question old new here start
    simp only [run]
    rw [← same]
    exact ih _ expected agree

end Confined

end Program

/-! ### Requests on the records of a course -/

/-- Records of the kind with this key can belong to the course: the key of a course is its own. -/
def RecordKind.KeyOf (kind : RecordKind) (c id : String) : Prop :=
  kind ≠ .user ∧ (kind = .course → id = c)

/-- The requests of operations on the records of one course. -/
inductive Request.OfCourse (c : String) : Request → Prop
  | findOne (kind : RecordKind) (id : String) (own : kind.KeyOf c id) :
      OfCourse c (.findOne (kind.home c) (.byId id))
  | count (kind : RecordKind) (id : String) (own : kind.KeyOf c id) :
      OfCourse c (.count (kind.home c) (.byId id))
  | listAll (kind : RecordKind) (belongs : kind.isCourseScoped = true) :
      OfCourse c (.listAll (kind.home c))
  | insertOne (kind : RecordKind) (record : kind.Carrier) (own : kind.KeyOf c (Record.id record))
      (placed : Record.place record = .ok (kind.home c)) :
      OfCourse c (.insertOne (kind.home c) (Records.stored (Record.id record) 1 record))
  | replaceOne (kind : RecordKind) (previous : Bson) (version : Int64) (record : kind.Carrier)
      (own : kind.KeyOf c (Record.id record)) (placed : Record.place record = .ok (kind.home c)) :
      OfCourse c (.replaceOne (kind.home c) (.guard (Record.id record) previous)
        (Records.stored (Record.id record) version record))
  | deleteOne (kind : RecordKind) (id : String) (own : kind.KeyOf c id) :
      OfCourse c (.deleteOne (kind.home c) (.byId id))
  | editMembership (kind : RecordKind) (listing : Listing kind) (id : String)
      (membership : Membership) (child : String) (own : kind.KeyOf c id) :
      OfCourse c (.editMembership (kind.home c) id membership listing.field (.string child))

/-- What is found under a key stands for a record of the course with that key. -/
def Request.Expects (c : String) : (request : Request) → Except StoreError request.Answer → Prop
  | .findOne ns filter, .ok (some document) => ∀ (kind : RecordKind) (id : String), kind ≠ .user →
    ns = kind.home c → filter = .byId id →
      ∃ record : kind.Carrier, document.Represents c record ∧ Record.id record = id
  | _, _ => True

/-- The program keeps to the records of the course. -/
abbrev StaysWithin {ε α : Type} (c : String) (ends : α → Prop) (program : StoreProgram ε α) : Prop :=
  program.Confined (fun call => call.request.OfCourse c) (fun call => call.request.Expects c) ends

theorem Record.uniqueFields_eq_nil {kind : RecordKind} (someone : kind ≠ .user)
    (record : kind.Carrier) : Record.uniqueFields record = [] := by
  cases kind <;> first | rfl | exact absurd rfl someone

/-! ### The operations on records -/

namespace Records

variable {c : String}

theorem confined_call {operation : Operation} {request : Request} (here : request.OfCourse c) :
    StaysWithin c (fun answer => request.Expects c (.ok answer))
      (StoreProgram.call operation request) := by
  refine .ask _ _ here fun answer expected => ?_
  cases answer with
  | error error => exact .fail error
  | ok answer => exact .done answer expected

variable (kind : RecordKind) {template : kind.Carrier} (own : kind.KeyOf c (Record.id template))
  (placed : ∀ ns, Record.place template = .ok ns → ns = kind.home c)

include own placed

theorem confined_get : StaysWithin c (fun record =>
    Record.place record = .ok (kind.home c) ∧ Record.id record = Record.id template)
    (get template) := by
  unfold get
  cases place : Record.place template with
  | error error => exact .fail error
  | ok ns =>
    cases placed ns place
    refine Program.Confined.bind (confined_call (.findOne kind _ own)) fun found expected => ?_
    cases found with
    | none => exact .fail _
    | some document =>
      obtain ⟨record, represents, keyed⟩ := expected kind _ own.1 rfl rfl
      show StaysWithin c _ (Program.ofExcept (decode (kind.home c) document))
      rw [represents.decode_eq]
      exact .done record ⟨represents.place_of_place place, keyed⟩

theorem confined_checkUnique : StaysWithin c (fun _ => True) (checkUnique template) := by
  unfold checkUnique
  rw [Record.uniqueFields_eq_nil own.1]
  cases place : Record.place template with
  | error error => exact .fail error
  | ok ns =>
    cases placed ns place
    have unused : StaysWithin c (fun _ => True)
        (ensureUnused (kind.home c) (Record.idField kind.Carrier) idKey (Record.id template) none) := by
      refine Program.Confined.bind (confined_call (.count kind _ own)) fun holders _ => ?_
      split
      · exact .fail _
      · exact .done () trivial
    exact unused.bind fun _ _ => .done () trivial

theorem confined_create : StaysWithin c (fun _ => True) (create template) := by
  unfold create
  cases place : Record.place template with
  | error error => exact .fail error
  | ok ns =>
    cases placed ns place
    exact Program.Confined.bind (confined_call (.insertOne kind template own place))
      fun _ _ => .done () trivial

theorem confined_update : StaysWithin c (fun _ => True) (update template) := by
  unfold update
  cases place : Record.place template with
  | error error => exact .fail error
  | ok ns =>
    cases placed ns place
    refine Program.Confined.bind (confined_call (.findOne kind _ own)) fun found expected => ?_
    cases found with
    | none => exact .fail _
    | some document =>
      obtain ⟨existing, represents, keyed⟩ := expected kind _ own.1 rfl rfl
      have nothing : introduced existing (merge existing template) = [] := by
        rw [introduced, Record.uniqueFields_eq_nil own.1 (merge existing template)]
        rfl
      have merged : Record.id (merge existing template) = Record.id template :=
        (LawfulRecord.id_merge ..).trans keyed
      have there : Record.place (merge existing template) = .ok (kind.home c) :=
        (place_merge ..).trans (represents.place_of_place place)
      show StaysWithin c _ (Program.ofExcept (decode (kind.home c) document) >>= _)
      rw [represents.decode_eq]
      show StaysWithin c _ (ensureAllUnused (kind.home c) _ (introduced existing _) >>= _)
      rw [nothing, ← merged]
      refine Program.Confined.bind (confined_call (.replaceOne kind _ _ _ (merged ▸ own) there))
        fun replaced _ => ?_
      split
      · exact .fail _
      · exact .done _ trivial

theorem confined_delete : StaysWithin c (fun _ => True) (delete template) := by
  unfold delete
  cases place : Record.place template with
  | error error => exact .fail error
  | ok ns =>
    cases placed ns place
    refine Program.Confined.bind (confined_call (.deleteOne kind _ own)) fun deleted _ => ?_
    split
    · exact .fail _
    · exact .done () trivial

theorem confined_sync (listing : Listing kind) (membership : Membership) (child : String) :
    StaysWithin c (fun _ => True) (sync template membership listing.field child) := by
  unfold sync
  cases place : Record.place template with
  | error error => exact .fail error
  | ok ns =>
    cases placed ns place
    exact (confined_call (.editMembership kind listing _ membership child own)).mono fun _ _ => trivial

omit own in
theorem confined_list (belongs : kind.isCourseScoped = true) :
    StaysWithin c (fun _ => True) (list template) := by
  unfold list
  cases place : Record.place template with
  | error error => exact .fail error
  | ok ns =>
    cases placed ns place
    exact Program.Confined.bind (confined_call (.listAll kind belongs)) fun documents _ =>
      (Program.Confined.ofExcept _).mono fun _ _ => trivial

end Records

/-! ### The workflows -/

theorem Course.keyOf (c : String) : RecordKind.course.KeyOf c c :=
  ⟨nofun, fun _ => rfl⟩

theorem Lesson.keyOf (c id : String) : RecordKind.lesson.KeyOf c id :=
  ⟨nofun, nofun⟩

theorem Content.keyOf (c id : String) : RecordKind.content.KeyOf c id :=
  ⟨nofun, nofun⟩

namespace Curriculum

variable {c : String}

theorem confined_ensureEmpty (kind : RecordKind) (id field : String)
    (children : List String) :
    StaysWithin c (fun _ => True) (ensureEmpty kind id field children) := by
  unfold ensureEmpty
  split
  · exact .done () trivial
  · exact .fail _

theorem confined_createCourse (now : Instant) {course : Course} (here : course.courseId = c) :
    StaysWithin c (fun _ => True) (createCourse now course) := by
  subst here
  refine .bind (.mapError (.ofExcept _) _) fun _ _ => ?_
  generalize made : { course with lessons := [], createdAt := some now } = created
  have own : RecordKind.course.KeyOf course.courseId (Record.id created) := made ▸ Course.keyOf _
  refine .bind (.mapError (Records.confined_checkUnique .course own fun _ => Course.place_eq) _)
    fun _ _ => ?_
  exact .bind (.mapError (Records.confined_create .course own fun _ => Course.place_eq) _)
    fun _ _ => .done _ trivial

theorem confined_updateCourse {change : Course} (here : change.courseId = c) :
    StaysWithin c (fun _ => True) (updateCourse change) := by
  subst here
  exact .mapError (Records.confined_update .course (Course.keyOf _) fun _ => Course.place_eq) _

theorem confined_deleteCourse (courseId : String) :
    StaysWithin courseId (fun _ => True) (deleteCourse courseId) := by
  refine .bind (.mapError (Records.confined_get .course (Course.keyOf courseId)
    fun _ => Course.place_eq) _) fun course ⟨_, named⟩ => ?_
  refine .bind (confined_ensureEmpty ..) fun _ _ => ?_
  have own : RecordKind.course.KeyOf courseId (Record.id course) := named ▸ Course.keyOf _
  exact .mapError (Records.confined_delete .course own fun _ => Course.place_eq) _

theorem confined_createLesson {lesson : Lesson} (here : lesson.courseRef = c) :
    StaysWithin c (fun _ => True) (createLesson lesson) := by
  subst here
  refine .bind (.mapError (Records.confined_get .course (Course.keyOf lesson.courseRef)
    fun _ => Course.place_eq) _) fun course ⟨_, named⟩ => ?_
  have own : RecordKind.course.KeyOf lesson.courseRef (Record.id course) := named ▸ Course.keyOf _
  have placed : ∀ ns, Record.place { lesson with contents := [] } = .ok ns →
      ns = lessonsAt lesson.courseRef := fun _ => Lesson.place_eq
  refine .bind (.mapError (Records.confined_checkUnique .lesson (Lesson.keyOf _ _) placed) _)
    fun _ _ => ?_
  refine .bind (.mapError (Records.confined_create .lesson (Lesson.keyOf _ _) placed) _)
    fun _ _ => ?_
  exact .bind (.mapError (Records.confined_sync .course own (fun _ => Course.place_eq) .lessons .push
    _) _) fun _ _ => .done _ trivial

theorem confined_updateLesson {change : Lesson} (here : change.courseRef = c) :
    StaysWithin c (fun _ => True) (updateLesson change) := by
  subst here
  exact .mapError (Records.confined_update .lesson (Lesson.keyOf _ _) fun _ => Lesson.place_eq) _

theorem confined_deleteLesson (courseRef lessonId : String) :
    StaysWithin courseRef (fun _ => True) (deleteLesson courseRef lessonId) := by
  refine .bind (.mapError (Records.confined_get .lesson (Lesson.keyOf courseRef _)
    fun _ => Lesson.place_eq) _) fun lesson ⟨there, _⟩ => ?_
  refine .bind (confined_ensureEmpty ..) fun _ _ => ?_
  refine .bind (.mapError (Records.confined_delete .lesson (Lesson.keyOf _ _)
    fun _ place => Except.ok.inj (place.symm.trans there)) _) fun _ _ => ?_
  exact .mapError (Records.confined_sync .course (Course.keyOf courseRef) (fun _ => Course.place_eq)
    .lessons .pull _) _

theorem confined_createContent {content : Content} (here : content.courseRef = c) :
    StaysWithin c (fun _ => True) (createContent content) := by
  subst here
  refine .bind (.mapError (Records.confined_get .lesson (Lesson.keyOf content.courseRef _)
    fun _ => Lesson.place_eq) _) fun lesson ⟨there, _⟩ => ?_
  refine .bind (.mapError (Records.confined_checkUnique .content (Content.keyOf _ _)
    fun _ => Content.place_eq) _) fun _ _ => ?_
  refine .bind (.mapError (Records.confined_create .content (Content.keyOf _ _)
    fun _ => Content.place_eq) _) fun _ _ => ?_
  exact .bind (.mapError (Records.confined_sync .lesson (Lesson.keyOf _ _)
    (fun _ place => Except.ok.inj (place.symm.trans there)) .contents .push _) _)
    fun _ _ => .done _ trivial

theorem confined_updateContent {change : Content} (here : change.courseRef = c) :
    StaysWithin c (fun _ => True) (updateContent change) := by
  subst here
  exact .mapError (Records.confined_update .content (Content.keyOf _ _) fun _ => Content.place_eq) _

theorem confined_deleteContent (courseRef contentId : String) :
    StaysWithin courseRef (fun _ => True) (deleteContent courseRef contentId) := by
  refine .bind (.mapError (Records.confined_get .content (Content.keyOf courseRef _)
    fun _ => Content.place_eq) _) fun content ⟨there, _⟩ => ?_
  refine .bind (.mapError (Records.confined_delete .content (Content.keyOf _ _)
    fun _ place => Except.ok.inj (place.symm.trans there)) _) fun _ _ => ?_
  exact .mapError (Records.confined_sync .lesson (Lesson.keyOf courseRef _) (fun _ => Lesson.place_eq)
    .contents .pull _) _

end Curriculum

end Syllabus
