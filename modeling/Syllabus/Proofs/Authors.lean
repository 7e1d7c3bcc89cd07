/-
**Creations and updates by their calls.**

A creation looks for the parent, checks and stores the child, and lists it; an update looks for its
record, checks, and writes over the version it read. What a client may still do follows from what is
left of its program, which is told here once for both.

* `Authoring` — what a client does; `Authoring.creates?` — the child that it creates, if it does;
* `Reaches` — checks, and then one call; closed under sequencing by `Reaches.bind`;
* `Seeks`, `Adopts`, `Enrolls` — what may be left of a creation; `Looks`, `Overwrites` — of an update;
* **`Authoring.seeks_or_looks`** — every client starts as one or the other.
-/

import Syllabus.Proofs.Crowd
import Syllabus.Proofs.Duties
import Syllabus.Proofs.Roster

namespace Syllabus

variable {ε ε' α β : Type}

/-- The program has returned or failed. -/
def Program.hasEnded {Q : Type} {A : Q → Type} : Program Q A ε α → Bool
  | .ask _ _ => false
  | _ => true

theorem Program.hasEnded_bind {Q : Type} {A : Q → Type} {program : Program Q A ε α}
    {next : α → Program Q A ε β} (ended : program.hasEnded = true)
    (rest : ∀ value, (next value).hasEnded = true) : (program >>= next).hasEnded = true := by
  cases program with
  | done value => exact rest value
  | fail error => rfl
  | ask question next => cases ended

theorem Program.hasEnded_mapError {Q : Type} {A : Q → Type} {program : Program Q A ε α}
    (change : ε → ε') (ended : program.hasEnded = true) :
    (program.mapError change).hasEnded = true := by
  cases program with
  | done value => rfl
  | fail error => rfl
  | ask question next => cases ended

/-! ### Checks and then a call -/

/-- What is left are checks and then this call, unless a check fails; the property holds of what
follows the call. -/
inductive Reaches (call : Call) (rest : (call.Answer → StoreProgram ε α) → Prop) :
    StoreProgram ε α → Prop
  | failed (error : ε) : Reaches call rest (.fail error)
  | checking (ns : Namespace) (filter : Filter) (next : Except StoreError Nat → StoreProgram ε α) :
      (∀ answer, Reaches call rest (next answer)) →
      Reaches call rest (.ask ⟨.validate, .count ns filter⟩ next)
  | there (next : call.Answer → StoreProgram ε α) : rest next → Reaches call rest (.ask call next)

namespace Reaches

variable {call : Call} {rest : (call.Answer → StoreProgram ε α) → Prop} {program : StoreProgram ε α}

theorem bind {next : α → StoreProgram ε β} {last : (call.Answer → StoreProgram ε β) → Prop}
    (reaches : Reaches call rest program)
    (lift : ∀ after, rest after → last fun answer => after answer >>= next) :
    Reaches call last (program >>= next) := by
  induction reaches with
  | failed error => exact .failed error
  | checking ns filter _ _ ih => exact .checking ns filter _ ih
  | there after holds => exact .there _ (lift after holds)

theorem mapError {change : ε → ε'} {last : (call.Answer → StoreProgram ε' α) → Prop}
    (reaches : Reaches call rest program)
    (lift : ∀ after, rest after → last fun answer => (after answer).mapError change) :
    Reaches call last (program.mapError change) := by
  induction reaches with
  | failed error => exact .failed _
  | checking ns filter _ _ ih => exact .checking ns filter _ ih
  | there after holds => exact .there _ (lift after holds)

/-- More checks may come before. -/
theorem after_checks {checks : StoreProgram ε Unit} {ns : Namespace}
    (counts : checks.Asks (Call.Counts ns)) (reaches : Reaches call rest program) :
    Reaches call rest (checks >>= fun _ => program) := by
  induction counts with
  | done value => exact reaches
  | fail error => exact .failed error
  | ask question next here _ ih =>
    obtain ⟨filter, rfl⟩ := here
    exact .checking ns filter _ ih

end Reaches

/-! ### Creations -/

/-- The record is a child of this parent under its key, and has no children of its own. -/
structure Bond.Newborn (bond : Bond) (record : bond.childKind.Carrier) : Prop where
  keyed : Record.id record = bond.child
  takes : bond.Takes record
  childless : ∀ listing : Listing bond.childKind, listing.members record = []

theorem Lesson.newborn (lesson : Lesson) : (Bond.lesson lesson.courseRef lesson.lessonId).Newborn
    ({ lesson with contents := [] } : Lesson) where
  keyed := rfl
  takes := trivial
  childless listing := by
    cases listing
    rfl

theorem Content.newborn (content : Content) :
    (Bond.content content.courseRef content.lessonRef content.contentId).Newborn content where
  keyed := rfl
  takes := rfl
  childless := nofun

/-- The next call lists the child; if it is answered so, the program returns. -/
def Enrolls (bond : Bond) (program : StoreProgram ε α) : Prop :=
  ∃ next, program = .ask ⟨.sync, bond.request .push⟩ next ∧ ∃ value, next (.ok ()) = .done value

/-- Checks are left, and then the child is stored. If it is, it is listed next; otherwise the program
fails. -/
def Adopts (bond : Bond) (record : bond.childKind.Carrier) : StoreProgram ε α → Prop :=
  Reaches ⟨.create, .insertOne bond.childNs (Records.stored bond.child 1 record)⟩ fun next =>
    Record.place record = .ok bond.childNs ∧
      (∀ error, ∃ failure, next (.error error) = .fail failure) ∧
      ∀ key, Enrolls bond (next (.ok key))

/-- The parent is looked for, and the child is adopted if it is found. -/
def Seeks (bond : Bond) (record : bond.childKind.Carrier) (program : StoreProgram ε α) : Prop :=
  (∃ error, program = .fail error) ∨
    ∃ next, program = .ask ⟨.get, .findOne bond.parentNs (.byId bond.parent)⟩ next ∧
      (∃ error, next (.ok none) = .fail error) ∧
      ∀ document, ∀ parent : bond.parentKind.Carrier, document.Represents bond.course parent →
        Record.id parent = bond.parent → Adopts bond record (next (.ok (some document)))

section Sequences

variable {bond : Bond} {record : bond.childKind.Carrier} {program : StoreProgram ε α}

theorem Enrolls.bind_done (enrolls : Enrolls bond program) (f : α → β) :
    Enrolls bond (program >>= fun value => .done (f value)) := by
  obtain ⟨next, rfl, value, returns⟩ := enrolls
  exact ⟨_, rfl, f value, congrArg (· >>= fun value => .done (f value)) returns⟩

theorem Adopts.bind_done (adopts : Adopts bond record program) (f : α → β) :
    Adopts bond record (program >>= fun value => .done (f value)) := by
  refine Reaches.bind adopts fun after ⟨placed, fails, enrolls⟩ => ⟨placed, fun error => ?_,
    fun key => (enrolls key).bind_done f⟩
  obtain ⟨failure, failed⟩ := fails error
  exact ⟨failure, congrArg (· >>= fun value => .done (f value)) failed⟩

theorem Seeks.bind_done (seeks : Seeks bond record program) (f : α → β) :
    Seeks bond record (program >>= fun value => .done (f value)) := by
  rcases seeks with ⟨error, rfl⟩ | ⟨next, rfl, ⟨error, missing⟩, adopts⟩
  · exact .inl ⟨error, rfl⟩
  · refine .inr ⟨_, rfl, ⟨error, congrArg (· >>= fun value => .done (f value)) missing⟩, ?_⟩
    exact fun document parent represents named => (adopts document parent represents named).bind_done f

end Sequences

namespace Curriculum

variable (bond : Bond) {record : bond.childKind.Carrier}

/-- A child is checked and stored, and then listed. -/
theorem adopts_records (newborn : bond.Newborn record) {parent : bond.parentKind.Carrier}
    (there : Record.place parent = .ok bond.parentNs) (named : Record.id parent = bond.parent)
    (placed : ∀ ns, Record.place record = .ok ns → ns = bond.childNs) (value : α) :
    Adopts bond record (records (Records.checkUnique record) >>= fun _ =>
      records (Records.create record) >>= fun _ =>
        syncParent parent .push bond.listing.field bond.child >>= fun _ => .done value) := by
  cases place : Record.place record with
  | error error =>
    unfold Records.checkUnique
    rw [place]
    exact .failed _
  | ok ns =>
    cases placed ns place
    refine .after_checks ((Records.asks_checkUnique place).mapError _) ?_
    unfold Records.create
    rw [place, newborn.keyed]
    refine .there _ ⟨rfl, fun error => ⟨_, rfl⟩, fun key => ?_⟩
    show Enrolls bond (syncParent parent .push bond.listing.field bond.child >>= fun _ => .done value)
    rw [syncParent_eq_ask bond there named]
    exact ⟨_, rfl, value, rfl⟩

/-- The parent is looked for first. -/
theorem seeks_records {template : bond.parentKind.Carrier}
    (placed : ∀ ns, Record.place template = .ok ns → ns = bond.parentNs)
    (named : Record.id template = bond.parent)
    {rest : bond.parentKind.Carrier → StoreProgram CurriculumError α}
    (adopts : ∀ parent, Record.place parent = .ok bond.parentNs → Record.id parent = bond.parent →
      Adopts bond record (rest parent)) :
    Seeks bond record (records (Records.get template) >>= rest) := by
  cases place : Record.place template with
  | error error =>
    unfold Records.get
    rw [place]
    exact .inl ⟨_, rfl⟩
  | ok ns =>
    cases placed ns place
    unfold Records.get
    rw [place, named]
    refine .inr ⟨_, rfl, ⟨_, rfl⟩, fun document parent represents same => ?_⟩
    show Adopts bond record
      (records (Program.ofExcept (Records.decode bond.parentNs document)) >>= rest)
    rw [represents.decode_eq]
    exact adopts parent (represents.place_of_place place) same

theorem seeks_createLesson (lesson : Lesson) :
    Seeks (.lesson lesson.courseRef lesson.lessonId) ({ lesson with contents := [] } : Lesson)
      (createLesson lesson) := by
  refine seeks_records (.lesson lesson.courseRef lesson.lessonId) (fun _ => Course.place_eq) rfl ?_
  intro course there named
  exact adopts_records _ lesson.newborn there named (fun _ => Lesson.place_eq) _

theorem seeks_createContent (content : Content) :
    Seeks (.content content.courseRef content.lessonRef content.contentId) content
      (createContent content) := by
  refine seeks_records (.content content.courseRef content.lessonRef content.contentId)
    (fun _ => Lesson.place_eq) rfl ?_
  intro lesson there named
  exact adopts_records _ content.newborn there named (fun _ => Content.place_eq) _

end Curriculum

/-! ### Updates -/

section Updates

variable {kind : RecordKind}

/-- Checks are left, and then the record is written over the version of the document that was read,
which ends the program. -/
def Overwrites (c id : String) (read : Document) (record : kind.Carrier) : StoreProgram ε α → Prop :=
  Reaches ⟨.update, .replaceOne (kind.home c) (.guard id ((read.get? versionKey).getD .null))
    (Records.stored id (read.version + 1) record)⟩ fun next => ∀ answer, (next answer).hasEnded = true

/-- The record is looked for, and written over with the change merged into it if it is found. -/
def Looks (c id : String) (change : kind.Carrier) (program : StoreProgram ε α) : Prop :=
  (∃ error, program = .fail error) ∨
    ∃ next, program = .ask ⟨.update, .findOne (kind.home c) (.byId id)⟩ next ∧
      (∃ error, next (.ok none) = .fail error) ∧
      ∀ document, ∀ record : kind.Carrier, document.Represents c record → Record.id record = id →
        Overwrites c id document (merge record change) (next (.ok (some document)))

variable {c id : String} {change : kind.Carrier}

theorem Looks.mapError {program : StoreProgram ε α} (looks : Looks c id change program)
    (f : ε → ε') : Looks c id change (program.mapError f) := by
  rcases looks with ⟨error, rfl⟩ | ⟨next, rfl, ⟨error, missing⟩, overwrites⟩
  · exact .inl ⟨_, rfl⟩
  · refine .inr ⟨_, rfl, ⟨_, congrArg (Program.mapError f) missing⟩, ?_⟩
    intro document record represents named
    exact (overwrites document record represents named).mapError fun after ends answer =>
      Program.hasEnded_mapError f (ends answer)

theorem Looks.bind_done {program : StoreProgram ε α} (looks : Looks c id change program) (f : α → β) :
    Looks c id change (program >>= fun value => .done (f value)) := by
  rcases looks with ⟨error, rfl⟩ | ⟨next, rfl, ⟨error, missing⟩, overwrites⟩
  · exact .inl ⟨_, rfl⟩
  · refine .inr ⟨_, rfl, ⟨_, congrArg (· >>= fun value => .done (f value)) missing⟩, ?_⟩
    intro document record represents named
    exact (overwrites document record represents named).bind fun after ends answer =>
      Program.hasEnded_bind (ends answer) fun _ => rfl

theorem Records.looks_update (placed : ∀ ns, Record.place change = .ok ns → ns = kind.home c)
    (named : Record.id change = id) : Looks c id change (update change) := by
  unfold update
  cases place : Record.place change with
  | error error => exact .inl ⟨_, rfl⟩
  | ok ns =>
    cases placed ns place
    cases named
    refine .inr ⟨_, rfl, ⟨_, rfl⟩, fun document record represents same => ?_⟩
    show Overwrites c _ document _ (Program.ofExcept (decode (kind.home c) document) >>= _)
    rw [represents.decode_eq]
    refine .after_checks (asks_ensureAllUnused (kind.home c) _ _) (.there _ fun answer => ?_)
    cases answer with
    | error error => rfl
    | ok replaced => cases replaced <;> rfl

end Updates

/-! ### Clients -/

/-- What a client does. -/
inductive Authoring where
  | createLesson (lesson : Lesson)
  | createContent (content : Content)
  | updateCourse (change : Course)
  | updateLesson (change : Lesson)
  | updateContent (change : Content)

namespace Authoring

/-- The calls of the client. What it returns is not of interest here. -/
def program : Authoring → StoreProgram CurriculumError Unit
  | .createLesson lesson => Curriculum.createLesson lesson >>= fun _ => pure ()
  | .createContent content => Curriculum.createContent content >>= fun _ => pure ()
  | .updateCourse change => Curriculum.updateCourse change >>= fun _ => pure ()
  | .updateLesson change => Curriculum.updateLesson change >>= fun _ => pure ()
  | .updateContent change => Curriculum.updateContent change >>= fun _ => pure ()

/-- The child that the client creates, if it does. -/
def creates? : Authoring → Option Bond
  | .createLesson lesson => some (.lesson lesson.courseRef lesson.lessonId)
  | .createContent content => some (.content content.courseRef content.lessonRef content.contentId)
  | _ => none

/-- Clients that have not made a call yet. -/
def gathered (tasks : List Authoring) (store : Store) : Crowd CurriculumError Unit :=
  .gathered store (tasks.map program)

/-- **Every client seeks the parent of a child, or looks for a record.** -/
theorem seeks_or_looks (task : Authoring) :
    (∃ bond, task.creates? = some bond ∧ ∃ record, bond.Newborn record ∧
      Seeks bond record task.program) ∨
    task.creates? = none ∧ ∃ kind : RecordKind, kind ≠ .user ∧ ∃ c id, ∃ change : kind.Carrier,
      Looks c id change task.program := by
  cases task with
  | createLesson lesson =>
    exact .inl ⟨_, rfl, _, lesson.newborn, (Curriculum.seeks_createLesson lesson).bind_done _⟩
  | createContent content =>
    exact .inl ⟨_, rfl, _, content.newborn, (Curriculum.seeks_createContent content).bind_done _⟩
  | updateCourse change =>
    exact .inr ⟨rfl, .course, nofun, "", _, change,
      ((Records.looks_update (fun _ => Course.place_eq) rfl).mapError _).bind_done _⟩
  | updateLesson change =>
    exact .inr ⟨rfl, .lesson, nofun, _, _, change,
      ((Records.looks_update (fun _ => Lesson.place_eq) rfl).mapError _).bind_done _⟩
  | updateContent change =>
    exact .inr ⟨rfl, .content, nofun, _, _, change,
      ((Records.looks_update (fun _ => Content.place_eq) rfl).mapError _).bind_done _⟩

end Authoring

end Syllabus
