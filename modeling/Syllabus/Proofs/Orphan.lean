/-
**Children that lose their parents.**

Clients create and delete courses, lessons and contents at the same time, in any order of their calls.
A deletion looks at the list of children in one call and removes the record in a later one, and a child
that is stored in between is an orphan of which no error tells.

* `Task` — what a client does; `Event.Enlists`, `Event.Delists` — calls that put a child on the list of
  its parent, or take it off, or the parent away;
* `Unbroken` — whoever was taken off a list was put on it again;
* `Tended`, `Tended.step` — what holds of store and clients between two calls;
* **`no_orphans_iff_unbroken`** — once all clients have returned, no child that is stored is an orphan
  exactly if the history is unbroken for each;
* **`orphan_of_collision`** — a course is deleted while a lesson of it is created, and both return.
-/

import Syllabus.Proofs.Crowd
import Syllabus.Proofs.Duties

namespace Syllabus

/-! ### Clients -/

/-- What a client does. -/
inductive Task where
  | createCourse (now : Instant) (course : Course)
  | deleteCourse (courseId : String)
  | createLesson (lesson : Lesson)
  | deleteLesson (courseRef lessonId : String)
  | createContent (content : Content)
  | deleteContent (courseRef contentId : String)

namespace Task

/-- The calls of the client. What is created is not of interest here. -/
def program : Task → StoreProgram CurriculumError Unit
  | .createCourse now course => Curriculum.createCourse now course >>= fun _ => pure ()
  | .deleteCourse courseId => Curriculum.deleteCourse courseId
  | .createLesson lesson => Curriculum.createLesson lesson >>= fun _ => pure ()
  | .deleteLesson courseRef lessonId => Curriculum.deleteLesson courseRef lessonId
  | .createContent content => Curriculum.createContent content >>= fun _ => pure ()
  | .deleteContent courseRef contentId => Curriculum.deleteContent courseRef contentId

/-- Clients that have not made a call yet. -/
def gathered (tasks : List Task) (store : Store) : Crowd CurriculumError Unit :=
  .gathered store (tasks.map program)

theorem dutiful_program (task : Task) : Dutiful (fun _ => True) task.program := by
  have forgotten : ∀ value : Unit, Dutiful (fun _ => True)
      (pure value : StoreProgram CurriculumError Unit) := fun value => .done value trivial
  cases task with
  | createCourse now course =>
    exact (Curriculum.dutiful_createCourse now course).bind fun _ _ => forgotten ()
  | deleteCourse courseId => exact Curriculum.dutiful_deleteCourse courseId
  | createLesson lesson =>
    exact (Curriculum.dutiful_createLesson lesson).bind fun _ _ => forgotten ()
  | deleteLesson courseRef lessonId => exact Curriculum.dutiful_deleteLesson courseRef lessonId
  | createContent content =>
    exact (Curriculum.dutiful_createContent content).bind fun _ _ => forgotten ()
  | deleteContent courseRef contentId => exact Curriculum.dutiful_deleteContent courseRef contentId

end Task

/-! ### Lists and their histories -/

/-- The call put the child on the list of its parent. -/
def Event.Enlists (event : Event) (bond : Bond) : Prop :=
  event.landed = true ∧ event.call.request = bond.request .push

/-- The call took the child off the list of its parent, or deleted the parent. -/
def Event.Delists (event : Event) (bond : Bond) : Prop :=
  event.landed = true ∧ (event.call.request = bond.request .pull ∨
    event.call.request = .deleteOne bond.parentNs (.byId bond.parent))

/-- After every call that took the child off the list, there is one that put it on the list again. -/
def Unbroken (history : List Event) (bond : Bond) : Prop :=
  ∀ front event back, history = front ++ event :: back → event.Delists bond →
    ∃ later ∈ back, later.Enlists bond

theorem Event.not_delists_of_enlists {event : Event} {bond : Bond} (enlists : event.Enlists bond) :
    ¬ event.Delists bond := by
  intro ⟨_, delists⟩
  rw [enlists.2] at delists
  rcases delists with pull | deletion
  · cases (Bond.eq_of_request_eq pull).2
  · cases deletion

theorem unbroken_nil (bond : Bond) : Unbroken [] bond := by
  intro front event back parts
  cases front <;> cases parts

/-- One more call mends a history, breaks it, or leaves it. -/
theorem unbroken_concat (history : List Event) (event : Event) (bond : Bond) :
    Unbroken (history ++ [event]) bond ↔
      event.Enlists bond ∨ (Unbroken history bond ∧ ¬ event.Delists bond) := by
  constructor
  · intro unbroken
    by_cases enlists : event.Enlists bond
    · exact .inl enlists
    · refine .inr ⟨fun front other back parts delists => ?_, fun delists => ?_⟩
      · obtain ⟨later, member, enlisted⟩ :=
          unbroken front other (back ++ [event]) (by simp [parts]) delists
        rcases List.mem_append.mp member with before | last
        · exact ⟨later, before, enlisted⟩
        · exact absurd (List.mem_singleton.mp last ▸ enlisted) enlists
      · obtain ⟨later, member, _⟩ := unbroken history event [] rfl delists
        cases member
  · intro known front other back parts delists
    rcases List.eq_nil_or_concat back with none | ⟨back, last, rfl⟩
    · subst none
      obtain ⟨_, same⟩ := List.append_inj' parts rfl
      cases same
      rcases known with enlists | ⟨_, stays⟩
      · exact absurd delists (Event.not_delists_of_enlists enlists)
      · exact absurd delists stays
    · rw [List.concat_eq_append] at parts ⊢
      rw [← List.cons_append, ← List.append_assoc] at parts
      obtain ⟨earlier, same⟩ := List.append_inj' parts rfl
      cases same
      rcases known with enlists | ⟨unbroken, _⟩
      · exact ⟨event, by simp, enlists⟩
      · obtain ⟨later, member, enlisted⟩ := unbroken front other back earlier delists
        exact ⟨later, List.mem_append_left _ member, enlisted⟩

/-! ### One call -/

namespace Store

variable {old next : Store}

theorem Kept.of_documents_eq (kept : old.Kept)
    (same : ∀ ns, next.documents ns = old.documents ns) : next.Kept :=
  fun kind someone c => (kept kind someone c).of_documents_eq (same _)

theorem lists_of_documents_eq (same : ∀ ns, next.documents ns = old.documents ns) (bond : Bond) :
    next.Lists bond ↔ old.Lists bond := by
  rw [lists_iff, lists_iff, recordAt_of_documents_eq (same _)]

theorem holds_of_documents_eq (same : ∀ ns, next.documents ns = old.documents ns) (bond : Bond) :
    next.Holds bond ↔ old.Holds bond := by
  rw [holds_iff, holds_iff, recordAt_of_documents_eq (same _)]

end Store

/-- What an answered call of a workflow does: lists change only if it says so, and a child that is new
is owed its listing by what is left of the workflow. -/
structure Event.Tends (event : Event) (left : StoreProgram CurriculumError Unit) : Prop where
  kept : event.after.Kept
  dutiful : Dutiful (fun _ => True) left
  lists : ∀ bond, event.after.Lists bond ↔
    (event.before.Lists bond ∨ event.Enlists bond) ∧ ¬ event.Delists bond
  holds : ∀ bond, event.after.Holds bond → event.before.Holds bond ∨ Owes bond left

theorem Event.not_landed_of_error {event : Event} {error : StoreError}
    (failed : event.answer = .error error) : event.landed = false := by
  unfold landed
  rw [failed]
  cases event.call.request <;> rfl

namespace Event.Tends

variable {event : Event} {left : StoreProgram CurriculumError Unit}

/-- A call that leaves the documents, as all do that read or fail. -/
theorem of_documents_eq (kept : event.before.Kept) (dutiful : Dutiful (fun _ => True) left)
    (unwritten : event.landed = false)
    (same : ∀ ns, event.after.documents ns = event.before.documents ns) : event.Tends left where
  kept := kept.of_documents_eq same
  dutiful := dutiful
  lists bond := by
    simp [Store.lists_of_documents_eq same, Event.Enlists, Event.Delists, unwritten]
  holds bond holds := .inl ((Store.holds_of_documents_eq same bond).mp holds)

/-- A call that is no edit of a list and no deletion, and leaves the lists. -/
theorem of_insertion (kept : event.after.Kept) (dutiful : Dutiful (fun _ => True) left)
    {ns : Namespace} {document : Document} (inserts : event.call.request = .insertOne ns document)
    (same : ∀ bond, event.after.Lists bond ↔ event.before.Lists bond)
    (holds : ∀ bond, event.after.Holds bond → event.before.Holds bond ∨ Owes bond left) :
    event.Tends left where
  kept := kept
  dutiful := dutiful
  lists bond := by simp [same, Event.Enlists, Event.Delists, inserts]
  holds := holds

/-- A deletion, which takes effect if there is a record, and takes its list along. -/
theorem of_deletion (kept : event.after.Kept) (dutiful : Dutiful (fun _ => True) left)
    {kind : RecordKind} {c id : String}
    (deletes : event.call.request = .deleteOne (kind.home c) (.byId id))
    (landed_iff : event.landed = true ↔ event.before.recordAt kind (kind.home c) id ≠ none)
    (lists : ∀ bond, event.after.Lists bond ↔
      event.before.Lists bond ∧ ¬ (bond.parentNs = kind.home c ∧ bond.parent = id))
    (holds : ∀ bond, event.after.Holds bond → event.before.Holds bond) : event.Tends left where
  kept := kept
  dutiful := dutiful
  lists bond := by
    have barren : ¬ event.Enlists bond := by
      rw [Event.Enlists, deletes]
      nofun
    have delists_iff : event.Delists bond ↔
        event.landed = true ∧ (bond.parentNs = kind.home c ∧ bond.parent = id) := by
      rw [Event.Delists, deletes, eq_comm (b := kind.home c), eq_comm (b := id)]
      simp [Filter.byId]
    rw [lists, or_iff_left barren, delists_iff, landed_iff]
    by_cases here : bond.parentNs = kind.home c ∧ bond.parent = id
    · obtain ⟨ns, parent⟩ := here
      cases RecordKind.eq_of_home_eq ns
      rw [Store.lists_iff, ns, parent]
      cases event.before.recordAt bond.parentKind (bond.parentKind.home c) id <;> simp
    · simp [here]
  holds bond after := .inl (holds bond after)

/-- An edit of a list that takes effect. -/
theorem of_edit (kept : event.after.Kept) (dutiful : Dutiful (fun _ => True) left) {edited : Bond}
    {membership : Membership} (edits : event.call.request = edited.request membership)
    (landed : event.landed = true)
    (lists : ∀ bond, event.after.Lists bond ↔
      (event.before.Lists bond ∨ (bond = edited ∧ membership = .push)) ∧
        ¬ (bond = edited ∧ membership = .pull))
    (holds : ∀ bond, event.after.Holds bond → event.before.Holds bond) : event.Tends left where
  kept := kept
  dutiful := dutiful
  lists bond := by
    have requests : ∀ other, edited.request membership = bond.request other ↔
        bond = edited ∧ membership = other := by
      intro other
      constructor
      · intro same
        obtain ⟨bonds, memberships⟩ := Bond.eq_of_request_eq same
        exact ⟨bonds.symm, memberships⟩
      · rintro ⟨rfl, rfl⟩
        rfl
    have kept_parent : edited.request membership ≠ .deleteOne bond.parentNs (.byId bond.parent) := nofun
    simp only [lists, Event.Enlists, Event.Delists, edits, landed, requests, kept_parent, true_and,
      or_false]
  holds bond after := .inl (holds bond after)

end Event.Tends

/-- **Every call of a dutiful program tends the lists.** -/
theorem Dutiful.tends {call : Call} {next : call.Answer → StoreProgram CurriculumError Unit}
    (dutiful : Dutiful (fun _ => True) (.ask call next)) (client : Nat) (spare : ObjectId)
    {store : Store} (kept : store.Kept) :
    Event.Tends ⟨client, call, (store.respond spare call).1, store, (store.respond spare call).2⟩
      (next (store.respond spare call).1) := by
  cases dutiful with
  | look operation kind c id next someone missing found =>
    refine .of_documents_eq kept ?_ rfl fun _ => rfl
    rcases (kept kind someone c).findOne id with none | ⟨version, record, placed, keyed, here⟩
    · show Dutiful _ (next (.ok (store.findOne (kind.home c) (.byId id))))
      rw [none]
      exact missing
    · show Dutiful _ (next (.ok (store.findOne (kind.home c) (.byId id))))
      rw [here]
      exact found version record placed keyed
  | count ns filter next rest => exact .of_documents_eq kept (rest _) rfl fun _ => rfl
  | found course next childless rest =>
    have placed : Record.place course = .ok (RecordKind.course.home "") := rfl
    rcases (kept .course nofun "").insertOne spare placed rfl with
      ⟨⟨error, refused⟩, same⟩ | ⟨_, fresh, alters⟩
    · exact .of_documents_eq kept (rest _) (Event.not_landed_of_error refused) same
    · refine .of_insertion (alters.kept kept) (rest _) rfl (alters.lists_of_insertion fresh ?_)
        fun bond holds => .inl ((alters.holds_of_ne ?_).mp holds)
      · intro listing
        cases listing
        exact childless
      · rintro ⟨ns, _⟩
        cases bond <;> cases RecordKind.eq_of_home_eq ns
  | adopt bond record next keyed placed takes childless rest owes =>
    rcases (kept _ bond.childKind_ne_user bond.course).insertOne spare placed keyed with
      ⟨⟨error, refused⟩, same⟩ | ⟨⟨key, accepted⟩, fresh, alters⟩
    · exact .of_documents_eq kept (rest _) (Event.not_landed_of_error refused) same
    · refine .of_insertion (alters.kept kept) (rest _) rfl
        (alters.lists_of_insertion fresh childless) fun other holds => ?_
      rcases Store.holds_of_insertion alters takes holds with before | this
      · exact .inl before
      · rw [this]
        have answer : (store.respond spare ⟨.create, .insertOne bond.childNs
            (Records.stored bond.child 1 record)⟩).1 = .ok key := accepted
        rw [answer]
        exact .inr (owes key)
  | drop kind c id next someone rest =>
    obtain ⟨landed_iff, alters⟩ := (kept kind someone c).deleteOne id
    exact .of_deletion (alters.kept kept) (rest _) rfl (bne_iff_ne.trans landed_iff)
      alters.lists_of_deletion fun bond holds => alters.holds_of_deletion holds
  | follow bond membership next rest =>
    rcases (kept _ bond.parentKind_ne_user bond.course).editMembership bond.listing membership
      bond.child bond.parent with ⟨_, ⟨error, failed⟩, same⟩ | ⟨record, there, done, alters⟩
    · refine .of_documents_eq kept (rest _) (Event.not_landed_of_error failed) fun ns => ?_
      exact congrArg (Store.documents · ns) same
    · refine .of_edit (alters.kept kept) (rest _) rfl ?_ (Store.lists_of_edit there alters)
        fun other holds => Store.holds_of_edit there alters holds
      have answer : (store.respond spare ⟨.sync, bond.request membership⟩).1 = .ok () := done
      show Request.landed _ _ = true
      rw [answer]
      rfl

/-! ### All calls -/

/-- What holds between two calls: what is listed follows from the history, and whoever is stored was
listed once, or is still to be listed by a client, unless a client has failed. -/
structure Tended (start : Store) (crowd : Crowd CurriculumError Unit) : Prop where
  kept : crowd.store.Kept
  dutiful : ∀ program ∈ crowd.programs, Dutiful (fun _ => True) program
  lists : ∀ bond, crowd.store.Lists bond ↔
    (start.Lists bond ∨ ∃ event ∈ crowd.history, event.Enlists bond) ∧ Unbroken crowd.history bond
  cared : ∀ bond, crowd.store.Holds bond →
    start.Lists bond ∨ (∃ event ∈ crowd.history, event.Enlists bond) ∨
      (∃ program ∈ crowd.programs, Owes bond program) ∨ ∃ error, .fail error ∈ crowd.programs

namespace Tended

variable {start : Store}

theorem gathered (kept : start.Kept) (none : start.NoOrphans) (tasks : List Task) :
    Tended start (Task.gathered tasks start) where
  kept := kept
  dutiful := by
    intro program member
    obtain ⟨task, _, rfl⟩ := List.mem_map.mp member
    exact task.dutiful_program
  lists bond := by simp [Task.gathered, Crowd.gathered, unbroken_nil]
  cared bond holds := .inl (none bond holds)

/-- A program that was not the one to be answered is still there. -/
theorem mem_programs_answered {crowd : Crowd CurriculumError Unit} {client : Nat} {call : Call}
    {next : call.Answer → StoreProgram CurriculumError Unit}
    (asks : crowd.programs[client]? = some (.ask call next)) (reply : call.Answer × Store)
    {program : StoreProgram CurriculumError Unit} (member : program ∈ crowd.programs)
    (other : program ≠ .ask call next) :
    program ∈ (crowd.answered client call next reply).programs := by
  obtain ⟨index, found⟩ := List.getElem?_of_mem member
  have different : index ≠ client := by
    rintro rfl
    exact other (Option.some.inj (found.symm.trans asks))
  refine List.mem_of_getElem? (i := index) ?_
  rw [Crowd.programs_answered_of_ne _ _ _ different]
  exact found

theorem step {crowd : Crowd CurriculumError Unit} (tended : Tended start crowd) (turn : Turn) :
    Tended start (crowd.step turn) := by
  rcases crowd.step_cases turn with same | ⟨call, next, asks, made⟩
  · rw [same]
    exact tended
  rw [made]
  have tends := (tended.dutiful _ (List.mem_of_getElem? asks)).tends turn.client turn.spare
    tended.kept
  generalize crowd.store.respond turn.spare call = reply at tends ⊢
  constructor
  case kept => exact tends.kept
  case dutiful =>
    intro program member
    rcases List.mem_or_eq_of_mem_set member with before | here
    · exact tended.dutiful program before
    · rw [here]
      exact tends.dutiful
  case lists =>
    intro bond
    rw [Crowd.history_answered, unbroken_concat]
    refine (tends.lists bond).trans ?_
    by_cases enlists : Event.Enlists ⟨turn.client, call, reply.1, crowd.store, reply.2⟩ bond
    · simp [enlists, Event.not_delists_of_enlists enlists]
    · have before := tended.lists bond
      simp only [enlists, or_false, false_or, List.mem_append, List.mem_singleton, or_and_right,
        exists_or, exists_eq_left, ← and_assoc, ← before]
  case cared =>
    intro bond holds
    rcases tends.holds bond holds with stored | owes
    · rcases tended.cared bond stored with listed | ⟨event, member, enlists⟩ |
        ⟨program, member, owes⟩ | ⟨error, failed⟩
      · exact .inl listed
      · exact .inr (.inl ⟨event, List.mem_append_left _ member, enlists⟩)
      · by_cases other : program = .ask call next
        · -- The client that owed the listing has made that very call.
          obtain ⟨rest, same, fails⟩ := owes
          cases other.symm.trans same
          cases answered : reply.1 with
          | ok done =>
            refine .inr (.inl ⟨_, List.mem_append_right _ (List.mem_singleton_self _), ?_, rfl⟩)
            show Request.landed _ reply.1 = true
            rw [answered]
            rfl
          | error error =>
            obtain ⟨failure, failed⟩ := fails error
            refine .inr (.inr (.inr ⟨failure, ?_⟩))
            rw [← failed, ← answered]
            exact List.mem_set (List.getElem?_eq_some_iff.mp asks).1 _
        · exact .inr (.inr (.inl ⟨program, mem_programs_answered asks reply member other, owes⟩))
      · refine .inr (.inr (.inr ⟨error, mem_programs_answered asks reply failed nofun⟩))
    · exact .inr (.inr (.inl ⟨_, List.mem_set (List.getElem?_eq_some_iff.mp asks).1 _, owes⟩))

/-- Whatever the order of the calls, lists and children are tended. -/
theorem of_run (kept : start.Kept) (none : start.NoOrphans) (tasks : List Task)
    (schedule : List Turn) : Tended start ((Task.gathered tasks start).run schedule) :=
  Crowd.run_induction (gathered kept none tasks) (fun _ turn tended => tended.step turn) schedule

/-- Once no client has a call left and none has failed, the history alone tells who is an orphan. -/
theorem lists_iff_unbroken {crowd : Crowd CurriculumError Unit} (tended : Tended start crowd)
    (finished : crowd.Finished) {bond : Bond}
    (holds : crowd.store.Holds bond) : crowd.store.Lists bond ↔ Unbroken crowd.history bond := by
  refine (tended.lists bond).trans (and_iff_right ?_)
  rcases tended.cared bond holds with listed | enlisted | ⟨program, member, owes⟩ | ⟨error, failed⟩
  · exact .inl listed
  · exact .inr enlisted
  · obtain ⟨next, rfl, _⟩ := owes
    cases finished _ member
  · cases finished _ failed

end Tended

/-- **When no child is an orphan.** Clients create and delete courses, lessons and contents in a store
without orphans, in any order of their calls, and all return. Then again no child that is stored is an
orphan exactly if, for each, every call that took it off the list of its parent, or deleted the parent,
was followed by one that put it on the list. -/
theorem no_orphans_iff_unbroken {start : Store} (kept : start.Kept) (none : start.NoOrphans)
    (tasks : List Task) (schedule : List Turn)
    (finished : ((Task.gathered tasks start).run schedule).Finished) :
    ((Task.gathered tasks start).run schedule).store.NoOrphans ↔
      ∀ bond, ((Task.gathered tasks start).run schedule).store.Holds bond →
        Unbroken ((Task.gathered tasks start).run schedule).history bond := by
  have tended := Tended.of_run kept none tasks schedule
  constructor
  · intro none bond holds
    exact (tended.lists_iff_unbroken finished holds).mp (none bond holds)
  · intro unbroken bond holds
    exact (tended.lists_iff_unbroken finished holds).mpr (unbroken bond holds)

/-- A course that one client deletes while another creates a lesson of it. -/
def Task.collision : List Task := [
  .createCourse ⟨⟨2024, 1, 1, by decide⟩, 0, 0, by decide⟩ (Course.withId "algebra"),
  .deleteCourse "algebra",
  .createLesson (Lesson.withId "algebra" "sets")]

/-- The deletion looks at the list of lessons before the lesson is there, and takes effect after it
was listed. -/
def Task.collisionTurns : List Turn :=
  [0, 0, 1, 2, 2, 2, 2, 1].map fun client => ⟨client, ⟨0⟩⟩

theorem Store.kept_empty : Store.empty.Kept :=
  fun _ _ _ => ⟨[], .nil rfl⟩

theorem Store.noOrphans_empty : Store.empty.NoOrphans := by
  intro bond holds
  obtain ⟨_, impossible, _⟩ := (Store.holds_iff _ bond).mp holds
  cases impossible

theorem Task.finished_collision :
    ((Task.gathered Task.collision Store.empty).run Task.collisionTurns).Finished := by
  decide +kernel

/-- **A lesson without its course.** The course is deleted over an empty list of lessons that has one
by then; all clients return, and the lesson is left without a course. -/
theorem orphan_of_collision :
    Store.empty.Kept ∧ Store.empty.NoOrphans ∧
      ((Task.gathered Task.collision Store.empty).run Task.collisionTurns).Finished ∧
      ¬ ((Task.gathered Task.collision Store.empty).run Task.collisionTurns).store.NoOrphans := by
  refine ⟨Store.kept_empty, Store.noOrphans_empty, Task.finished_collision, fun none => ?_⟩
  have stored : (((Task.gathered Task.collision Store.empty).run
      Task.collisionTurns).store.recordAt .lesson (lessonsAt "algebra") "sets").isSome = true := by
    decide +kernel
  have gone : ((Task.gathered Task.collision Store.empty).run Task.collisionTurns).store.recordAt
      .course coursesAt "algebra" = .none := by
    decide +kernel
  obtain ⟨course, there, _⟩ := none (.lesson "algebra" "sets") (Option.isSome_iff_exists.mp stored)
  cases gone.symm.trans there

/-- The collision as a case of the theorem: the history is broken for the lesson. -/
theorem no_orphans_iff_unbroken_of_collision :
    Store.empty.Kept ∧ Store.empty.NoOrphans ∧
      ((Task.gathered Task.collision Store.empty).run Task.collisionTurns).Finished ∧
      (((Task.gathered Task.collision Store.empty).run Task.collisionTurns).store.NoOrphans ↔
        ∀ bond, ((Task.gathered Task.collision Store.empty).run
            Task.collisionTurns).store.Holds bond →
          Unbroken ((Task.gathered Task.collision Store.empty).run Task.collisionTurns).history
            bond) :=
  ⟨Store.kept_empty, Store.noOrphans_empty, Task.finished_collision,
    no_orphans_iff_unbroken Store.kept_empty Store.noOrphans_empty Task.collision Task.collisionTurns
      Task.finished_collision⟩

end Syllabus
