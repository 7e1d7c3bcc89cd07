/-
**The duties of a workflow.**

Between two calls of a workflow others may do anything, so what it will do next cannot rest on the
store. It rests on the program: whoever has stored a child goes on to put it on the list of its parent,
and fails if that fails.

* `Owes` — the next call adds a child to its parent's list;
* `Dutiful` — every call that is left is one of a workflow, and after a child was stored its listing is
  owed; closed under sequencing by `Dutiful.bind`;
* `Curriculum.dutiful_createLesson` and the like — the workflows that create and delete are dutiful.
-/

import Syllabus.Proofs.Bond

namespace Syllabus

variable {ε ε' α β : Type}

/-- The next call adds the child to the list of its parent, and the program fails if the call does. -/
def Owes (bond : Bond) (program : StoreProgram ε α) : Prop :=
  ∃ next, program = .ask ⟨.sync, bond.request .push⟩ next ∧
    ∀ error, ∃ failure, next (.error error) = .fail failure

/-- All calls that are left are those of a workflow, if what is found under a key is the document of a
record with that key. New records list nothing, and whoever stores a child owes its listing. -/
inductive Dutiful (ends : α → Prop) : StoreProgram ε α → Prop
  | done (value : α) : ends value → Dutiful ends (.done value)
  | fail (error : ε) : Dutiful ends (.fail error)
  | look (operation : Operation) (kind : RecordKind) (c id : String)
      (next : Except StoreError (Option Document) → StoreProgram ε α) :
      kind ≠ .user → Dutiful ends (next (.ok none)) →
      (∀ version (record : kind.Carrier), Record.place record = .ok (kind.home c) →
        Record.id record = id → Dutiful ends (next (.ok (some (Records.stored id version record))))) →
      Dutiful ends (.ask ⟨operation, .findOne (kind.home c) (.byId id)⟩ next)
  | count (ns : Namespace) (filter : Filter) (next : Except StoreError Nat → StoreProgram ε α) :
      (∀ answer, Dutiful ends (next answer)) →
      Dutiful ends (.ask ⟨.validate, .count ns filter⟩ next)
  | found (course : Course) (next : Except StoreError Bson → StoreProgram ε α) :
      course.lessons = [] → (∀ answer, Dutiful ends (next answer)) →
      Dutiful ends
        (.ask ⟨.create, .insertOne coursesAt (Records.stored course.courseId 1 course)⟩ next)
  | adopt (bond : Bond) (record : bond.childKind.Carrier)
      (next : Except StoreError Bson → StoreProgram ε α) :
      Record.id record = bond.child → Record.place record = .ok bond.childNs → bond.Takes record →
      (∀ listing : Listing bond.childKind, listing.members record = []) →
      (∀ answer, Dutiful ends (next answer)) → (∀ key, Owes bond (next (.ok key))) →
      Dutiful ends
        (.ask ⟨.create, .insertOne bond.childNs (Records.stored bond.child 1 record)⟩ next)
  | drop (kind : RecordKind) (c id : String) (next : Except StoreError Nat → StoreProgram ε α) :
      kind ≠ .user → (∀ answer, Dutiful ends (next answer)) →
      Dutiful ends (.ask ⟨.delete, .deleteOne (kind.home c) (.byId id)⟩ next)
  | follow (bond : Bond) (membership : Membership)
      (next : Except StoreError Unit → StoreProgram ε α) :
      (∀ answer, Dutiful ends (next answer)) →
      Dutiful ends (.ask ⟨.sync, bond.request membership⟩ next)

namespace Owes

variable {bond : Bond} {program : StoreProgram ε α}

theorem bind (owes : Owes bond program) (next : α → StoreProgram ε β) :
    Owes bond (program >>= next) := by
  obtain ⟨rest, rfl, fails⟩ := owes
  refine ⟨fun answer => rest answer >>= next, rfl, fun error => ?_⟩
  obtain ⟨failure, failed⟩ := fails error
  exact ⟨failure, congrArg (· >>= next) failed⟩

theorem mapError (owes : Owes bond program) (change : ε → ε') :
    Owes bond (program.mapError change) := by
  obtain ⟨rest, rfl, fails⟩ := owes
  refine ⟨fun answer => (rest answer).mapError change, rfl, fun error => ?_⟩
  obtain ⟨failure, failed⟩ := fails error
  exact ⟨change failure, congrArg (Program.mapError change) failed⟩

end Owes

namespace Dutiful

variable {ends : α → Prop} {program : StoreProgram ε α}

theorem bind {last : β → Prop} (first : Dutiful ends program) {next : α → StoreProgram ε β}
    (rest : ∀ value, ends value → Dutiful last (next value)) : Dutiful last (program >>= next) := by
  induction first with
  | done value holds => exact rest value holds
  | fail error => exact .fail error
  | look operation kind c id _ someone _ _ missing found =>
    exact .look operation kind c id _ someone missing found
  | count ns filter _ _ ih => exact .count ns filter _ ih
  | found course _ childless _ ih => exact .found course _ childless ih
  | adopt bond record _ keyed placed takes childless _ owes ih =>
    exact .adopt bond record _ keyed placed takes childless ih fun key => (owes key).bind next
  | drop kind c id _ someone _ ih => exact .drop kind c id _ someone ih
  | follow bond membership _ _ ih => exact .follow bond membership _ ih

theorem mapError (dutiful : Dutiful ends program) (change : ε → ε') :
    Dutiful ends (program.mapError change) := by
  induction dutiful with
  | done value holds => exact .done value holds
  | fail error => exact .fail _
  | look operation kind c id _ someone _ _ missing found =>
    exact .look operation kind c id _ someone missing found
  | count ns filter _ _ ih => exact .count ns filter _ ih
  | found course _ childless _ ih => exact .found course _ childless ih
  | adopt bond record _ keyed placed takes childless _ owes ih =>
    exact .adopt bond record _ keyed placed takes childless ih fun key => (owes key).mapError change
  | drop kind c id _ someone _ ih => exact .drop kind c id _ someone ih
  | follow bond membership _ _ ih => exact .follow bond membership _ ih

theorem ofExcept (value : Except ε α) :
    Dutiful (fun _ => True) (Program.ofExcept value : StoreProgram ε α) := by
  cases value with
  | ok value => exact .done value trivial
  | error error => exact .fail error

theorem of_counts {ns : Namespace} (counts : program.Asks (Call.Counts ns)) :
    Dutiful (fun _ => True) program := by
  induction counts with
  | done value => exact .done value trivial
  | fail error => exact .fail error
  | ask call next here _ ih =>
    obtain ⟨filter, rfl⟩ := here
    exact .count ns filter _ ih

end Dutiful

/-! ### The operations on records -/

namespace Records

theorem dutiful_get (kind : RecordKind) (someone : kind ≠ .user) {c : String}
    {template : kind.Carrier}
    (placed : ∀ ns, Record.place template = .ok ns → ns = kind.home c) :
    Dutiful (fun record => Record.place record = .ok (kind.home c) ∧
      Record.id record = Record.id template) (get template) := by
  unfold get
  cases place : Record.place template with
  | error error => exact .fail error
  | ok ns =>
    cases placed ns place
    refine .look .get kind c _ _ someone (.fail _) fun version record here keyed => ?_
    show Dutiful _ (Program.ofExcept (decode (kind.home c) (stored (Record.id template) version record)))
    rw [decode_stored]
    exact .done record ⟨here, keyed⟩

theorem dutiful_checkUnique {ρ : Type} [Record ρ] (record : ρ) :
    Dutiful (fun _ => True) (checkUnique record) := by
  cases place : Record.place record with
  | error error =>
    unfold checkUnique
    rw [place]
    exact .fail error
  | ok ns => exact .of_counts (asks_checkUnique place)

/-- A course that lists nothing is stored. -/
theorem dutiful_create {course : Course} (childless : course.lessons = []) :
    Dutiful (fun _ => True) (create course) := by
  refine .found course _ childless fun answer => ?_
  cases answer with
  | error error => exact .fail error
  | ok key => exact .done () trivial

theorem dutiful_delete (kind : RecordKind) (someone : kind ≠ .user) {c : String}
    {template : kind.Carrier}
    (placed : ∀ ns, Record.place template = .ok ns → ns = kind.home c) :
    Dutiful (fun _ => True) (delete template) := by
  unfold delete
  cases place : Record.place template with
  | error error => exact .fail error
  | ok ns =>
    cases placed ns place
    refine .drop kind c _ _ someone fun answer => ?_
    cases answer with
    | error error => exact .fail error
    | ok deleted =>
      cases deleted with
      | zero => exact .fail _
      | succ more => exact .done () trivial

end Records

namespace Curriculum

/-! ### Parents and children -/

section Children

variable (bond : Bond) {parent : bond.parentKind.Carrier}
  (there : Record.place parent = .ok bond.parentNs) (named : Record.id parent = bond.parent)

include there named

theorem syncParent_eq_ask (membership : Membership) :
    syncParent parent membership bond.listing.field bond.child =
      .ask ⟨.sync, bond.request membership⟩ fun answer =>
        (Program.ofExcept answer).mapError (.partialSync membership.text bond.child
          ((Record.kind bond.parentKind.Carrier).text ++ " '" ++ bond.parent ++ "'")) := by
  unfold syncParent Records.sync
  rw [there, named]
  rfl

theorem dutiful_syncParent (membership : Membership) :
    Dutiful (fun _ => True) (syncParent parent membership bond.listing.field bond.child) := by
  rw [syncParent_eq_ask bond there named]
  refine .follow bond membership _ fun answer => ?_
  cases answer with
  | error error => exact .fail _
  | ok done => exact .done () trivial

theorem owes_syncParent :
    Owes bond (syncParent parent .push bond.listing.field bond.child) := by
  rw [syncParent_eq_ask bond there named]
  exact ⟨_, rfl, fun error => ⟨_, rfl⟩⟩

/-- A child is stored, and then listed. -/
theorem dutiful_adopt {α : Type} {ends : α → Prop} {record : bond.childKind.Carrier}
    (keyed : Record.id record = bond.child)
    (placed : ∀ ns, Record.place record = .ok ns → ns = bond.childNs) (takes : bond.Takes record)
    (childless : ∀ listing : Listing bond.childKind, listing.members record = [])
    {rest : StoreProgram CurriculumError α} (dutiful : Dutiful ends rest) :
    Dutiful ends (records (Records.create record) >>= fun _ =>
      syncParent parent .push bond.listing.field bond.child >>= fun _ => rest) := by
  unfold Records.create
  cases place : Record.place record with
  | error error => exact .fail _
  | ok ns =>
    cases placed ns place
    rw [keyed]
    refine .adopt bond record _ keyed place takes childless (fun answer => ?_) fun key => ?_
    · cases answer with
      | error error => exact .fail _
      | ok key => exact (dutiful_syncParent bond there named .push).bind fun _ _ => dutiful
    · exact (owes_syncParent bond there named).bind fun _ => rest

end Children

/-! ### The workflows -/

theorem dutiful_ensureEmpty (kind : RecordKind) (id field : String) (children : List String) :
    Dutiful (fun _ => True) (ensureEmpty kind id field children) := by
  unfold ensureEmpty
  split
  · exact .done () trivial
  · exact .fail _

theorem dutiful_createCourse (now : Instant) (course : Course) :
    Dutiful (fun _ => True) (createCourse now course) := by
  refine .bind (.mapError (.ofExcept _) _) fun _ _ => ?_
  refine .bind (.mapError (Records.dutiful_checkUnique _) _) fun _ _ => ?_
  exact .bind (.mapError (Records.dutiful_create rfl) _) fun _ _ => .done _ trivial

theorem dutiful_deleteCourse (courseId : String) :
    Dutiful (fun _ => True) (deleteCourse courseId) := by
  refine .bind (.mapError (Records.dutiful_get .course nofun (c := courseId)
    fun _ => Course.place_eq) _) fun course _ => ?_
  refine .bind (dutiful_ensureEmpty _ _ _ _) fun _ _ => ?_
  exact .mapError (Records.dutiful_delete .course nofun (c := courseId) fun _ => Course.place_eq) _

theorem dutiful_createLesson (lesson : Lesson) :
    Dutiful (fun _ => True) (createLesson lesson) := by
  refine .bind (.mapError (Records.dutiful_get .course nofun (c := lesson.courseRef)
    fun _ => Course.place_eq) _) fun course ⟨there, named⟩ => ?_
  refine .bind (.mapError (Records.dutiful_checkUnique _) _) fun _ _ => ?_
  have keyed : Record.id { lesson with contents := [] } = lesson.lessonId := rfl
  have placed : ∀ ns, Record.place { lesson with contents := [] } = .ok ns →
      ns = lessonsAt lesson.courseRef := fun _ => Lesson.place_eq
  have childless : ∀ listing : Listing .lesson,
      listing.members { lesson with contents := [] } = [] := by
    intro listing
    cases listing
    rfl
  refine dutiful_adopt (.lesson lesson.courseRef lesson.lessonId) there named keyed placed trivial
    childless ?_
  exact .done _ trivial

theorem dutiful_deleteLesson (courseRef lessonId : String) :
    Dutiful (fun _ => True) (deleteLesson courseRef lessonId) := by
  refine .bind (.mapError (Records.dutiful_get .lesson nofun (c := courseRef)
    fun _ => Lesson.place_eq) _) fun lesson ⟨there, _⟩ => ?_
  refine .bind (dutiful_ensureEmpty _ _ _ _) fun _ _ => ?_
  refine .bind (.mapError (Records.dutiful_delete .lesson nofun
    fun ns place => Except.ok.inj (place.symm.trans there)) _) fun _ _ => ?_
  exact dutiful_syncParent (.lesson courseRef lessonId) rfl rfl .pull

theorem dutiful_createContent (content : Content) :
    Dutiful (fun _ => True) (createContent content) := by
  refine .bind (.mapError (Records.dutiful_get .lesson nofun (c := content.courseRef)
    fun _ => Lesson.place_eq) _) fun lesson ⟨there, named⟩ => ?_
  refine .bind (.mapError (Records.dutiful_checkUnique _) _) fun _ _ => ?_
  have keyed : Record.id content = content.contentId := rfl
  refine dutiful_adopt (.content content.courseRef content.lessonRef content.contentId) there named
    keyed (fun _ => Content.place_eq) rfl nofun ?_
  exact .done _ trivial

theorem dutiful_deleteContent (courseRef contentId : String) :
    Dutiful (fun _ => True) (deleteContent courseRef contentId) := by
  refine .bind (.mapError (Records.dutiful_get .content nofun (c := courseRef)
    fun _ => Content.place_eq) _) fun content ⟨there, _⟩ => ?_
  refine .bind (.mapError (Records.dutiful_delete .content nofun
    fun ns place => Except.ok.inj (place.symm.trans there)) _) fun _ _ => ?_
  exact dutiful_syncParent (.content courseRef (Content.lessonRef content) contentId)
    (Lesson.place_of_usable (Content.usable_of_place there)) rfl .pull

end Curriculum

end Syllabus
