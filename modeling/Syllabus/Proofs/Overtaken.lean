/-
**An update that is overtaken.**

The version that guards an update is a number of 64 bits, and every change of a document counts one.
After 2^64 changes the number is the one that was read again, and the guard lets an update pass that has
seen none of them. For the update of a course it takes as many new lessons.

* `Crowd.exists_alone`, `Crowd.exists_in_turn` — clients that come one after another do what they do
  alone;
* `Enrolled` — a course with so many lessons; `Enrolled.yields_createLesson` — and with one more;
* **`overtaken_update_lands`** — the update of a course takes the lessons off the list that 2^64
  creations have put there.
-/

import Syllabus.Proofs.Authors

namespace Syllabus

/-! ### One client after another -/

namespace Crowd

variable {ε α : Type}

theorem run_append (crowd : Crowd ε α) (first second : List Turn) :
    crowd.run (first ++ second) = (crowd.run first).run second :=
  List.foldl_append

/-- A client that has all the turns does what its program does alone. -/
theorem exists_alone (spare : ObjectId) {crowd : Crowd ε α} {client : Nat} {program : StoreProgram ε α}
    (running : crowd.programs[client]? = some program) :
    ∃ schedule, (crowd.run schedule).store = (program.run (Store.respond spare) crowd.store).2 ∧
      ∀ other, other ≠ client → (crowd.run schedule).programs[other]? = crowd.programs[other]? := by
  induction program generalizing crowd with
  | done value => exact ⟨[], rfl, fun _ _ => rfl⟩
  | fail error => exact ⟨[], rfl, fun _ _ => rfl⟩
  | ask call next ih =>
    have made := step_of_asks running spare
    obtain ⟨schedule, reached, others⟩ :=
      ih _ (programs_answered_self crowd next (crowd.store.respond spare call) running)
    refine ⟨⟨client, spare⟩ :: schedule, ?_, fun other different => ?_⟩
    · show ((crowd.step _).run schedule).store = _
      rw [made]
      exact reached
    · show ((crowd.step _).run schedule).programs[other]? = _
      rw [made, others other different, programs_answered_of_ne _ _ _ different]

/-- Where each client leads from one stage to the next, all of them lead to the last. -/
theorem exists_in_turn (spare : ObjectId) (P : Nat → Store → Prop) {program : Nat → StoreProgram ε α}
    {crowd : Crowd ε α} {first count : Nat}
    (running : ∀ n, n < count → crowd.programs[first + n]? = some (program n))
    (yields : ∀ n, Program.Yields (Store.respond spare) (P n) (program n) (fun _ => P (n + 1))
      fun _ => False)
    (start : P 0 crowd.store) :
    ∃ schedule, P count (crowd.run schedule).store ∧
      ∀ other, other < first → (crowd.run schedule).programs[other]? = crowd.programs[other]? := by
  -- The clients that have not had a turn yet have their programs.
  suffices reaches : ∀ done, done ≤ count → ∃ schedule, P done (crowd.run schedule).store ∧
      ∀ other, other < first ∨ first + done ≤ other →
        (crowd.run schedule).programs[other]? = crowd.programs[other]? by
    obtain ⟨schedule, reached, others⟩ := reaches count (Nat.le_refl _)
    exact ⟨schedule, reached, fun other before => others other (.inl before)⟩
  intro done
  induction done with
  | zero => exact fun _ => ⟨[], start, fun _ _ => rfl⟩
  | succ done ih =>
    intro further
    obtain ⟨schedule, reached, others⟩ := ih (Nat.le_of_lt further)
    have next := (others (first + done) (.inr (Nat.le_refl _))).trans (running done further)
    obtain ⟨turns, alone, apart⟩ := exists_alone spare next
    refine ⟨schedule ++ turns, ?_, fun other elsewhere => ?_⟩
    · have yielded := yields done _ reached
      rw [run_append, alone]
      generalize (program done).run (Store.respond spare) (crowd.run schedule).store = ended at yielded ⊢
      obtain ⟨result, store⟩ := ended
      cases result with
      | ok value => exact yielded
      | error error => exact yielded.elim
    · rw [run_append, apart other (by omega), others other (by omega)]

end Crowd

/-! ### A course with more and more lessons -/

section Lessons

variable (course : Course) (lesson : Nat → Lesson)

/-- The course with this many of the lessons on its list. -/
def roll (count : Nat) : Course :=
  { course with lessons := (List.range count).map fun n => (lesson n).lessonId }

/-- This many of the lessons, as they are stored. -/
def stock (count : Nat) : List (Entry Lesson) :=
  (List.range count).map fun n => ⟨1, { lesson n with contents := [] }⟩

/-- The course lists so many of the lessons, and as many changes are counted; so many are stored. -/
structure Enrolled (listed stored : Nat) (store : Store) : Prop where
  listed : store.Shelf coursesAt [⟨1 + Int64.ofNat listed, roll course lesson listed⟩]
  stored : store.Shelf (lessonsAt course.courseId) (stock lesson stored)

variable {course lesson}

theorem stock_succ (count : Nat) :
    stock lesson (count + 1) = stock lesson count ++ [⟨1, { lesson count with contents := [] }⟩] := by
  rw [stock, List.range_succ, List.map_append]
  rfl

/-- The course with one more lesson on its list. -/
theorem edited_roll (count : Nat) :
    Entry.edited .lessons .push (lesson count).lessonId
      (⟨1 + Int64.ofNat count, roll course lesson count⟩ : Entry Course) =
      ⟨1 + Int64.ofNat (count + 1), roll course lesson (count + 1)⟩ := by
  have changed : Membership.push.edited (lesson count).lessonId (roll course lesson count).lessons ≠
      (roll course lesson count).lessons := by
    simp [Membership.edited]
  have longer : (List.range (count + 1)).map (fun n => (lesson n).lessonId) =
      Membership.push.edited (lesson count).lessonId (roll course lesson count).lessons := by
    rw [List.range_succ, List.map_append]
    rfl
  have counted : 1 + Int64.ofNat count + 1 = 1 + Int64.ofNat (count + 1) := by
    rw [Int64.ofNat_add, Int64.add_assoc]
    rfl
  exact congr (congrArg Entry.mk ((if_neg changed).trans counted))
    (congrArg (fun ids => { course with lessons := ids }) longer.symm)

/-- A further lesson is created and listed. -/
theorem Enrolled.yields_createLesson {spare : ObjectId}
    (usable : isDatabaseName course.courseId = true)
    (housed : ∀ n, (lesson n).courseRef = course.courseId)
    (apart : ∀ m n, (lesson m).lessonId = (lesson n).lessonId → m = n) (count : Nat) :
    Program.Yields (Store.respond spare) (Enrolled course lesson count count)
      (Curriculum.createLesson (lesson count))
      (fun _ => Enrolled course lesson (count + 1) (count + 1)) fun _ => False := by
  have placed : Record.place { lesson count with contents := [] } =
      .ok (lessonsAt course.courseId) := by
    rw [← housed count] at usable ⊢
    exact Lesson.place_of_usable usable
  have fresh : ∀ entry ∈ stock lesson count, entry.key ≠ (lesson count).lessonId := by
    intro entry member same
    obtain ⟨n, earlier, rfl⟩ := List.mem_map.mp member
    exact absurd (apart n count same) (Nat.ne_of_lt (List.mem_range.mp earlier))
  have founder : Entry.key (⟨1 + Int64.ofNat count, roll course lesson count⟩ : Entry Course) =
      (lesson count).courseRef := (housed count).symm
  have stocked : ∀ old next, Enrolled course lesson count count old →
      Store.Turned old next (lessonsAt course.courseId)
        (stock lesson count ++ [⟨1, { lesson count with contents := [] }⟩]) →
      Enrolled course lesson count (count + 1) next := by
    intro old next before turned
    refine ⟨before.listed.of_documents_eq
      (turned.elsewhere _ (Store.Keeps.apart .course .lesson (by decide) _ _)), ?_⟩
    rw [stock_succ]
    exact turned.shelf
  have rolled : ∀ old next, Enrolled course lesson count (count + 1) old →
      Store.Turned old next coursesAt (Store.Shelf.changeAt (lesson count).courseRef
        (Entry.edited .lessons .push (lesson count).lessonId)
        [⟨1 + Int64.ofNat count, roll course lesson count⟩]) →
      Enrolled course lesson (count + 1) (count + 1) next := by
    intro old next before turned
    refine ⟨?_, before.stored.of_documents_eq
      (turned.elsewhere _ (Store.Keeps.apart .lesson .course (by decide) _ _))⟩
    have changed : Store.Shelf.changeAt (lesson count).courseRef
        (Entry.edited .lessons .push (lesson count).lessonId)
        [⟨1 + Int64.ofNat count, roll course lesson count⟩] =
        [⟨1 + Int64.ofNat (count + 1), roll course lesson (count + 1)⟩] :=
      congrArg (· :: []) ((if_pos founder).trans (edited_roll count))
    exact (congrArg (next.Shelf coursesAt) changed).mp turned.shelf
  refine .bind (.mapError (Records.yields_get (fun _ => Enrolled.listed) (fun _ => Course.place_eq)
    (fun _ _ => rfl) fun missing _ _ => missing _ (List.mem_singleton_self _) founder) _)
    fun parent => .given fun ⟨_, entry, member, same, _⟩ => ?_
  rw [List.mem_singleton.mp member] at same
  subst same
  refine .bind (.mapError (Records.yields_checkUnique (fun _ => Enrolled.stored) placed rfl
    fun ⟨entry, member, taken⟩ _ _ => fresh entry member taken) _) fun _ => .given fun _ => ?_
  refine .bind (.mapError (Records.yields_create (fun _ => Enrolled.stored) placed fresh stocked) _)
    fun _ => ?_
  exact .bind (.mapError (Records.yields_sync .lessons (fun _ => Enrolled.listed) rfl founder
    ⟨_, List.mem_singleton_self _, founder⟩ rolled) _) fun _ => .done fun _ => id

/-! ### The update -/

/-- An update of a course reads the course, and writes over the version that it has read. -/
theorem updateCourse_eq_ask (change : Course) :
    ∃ next : Except StoreError (Option Document) → StoreProgram CurriculumError Unit,
      (Authoring.updateCourse change).program =
        .ask ⟨.update, .findOne coursesAt (.byId change.courseId)⟩ next ∧
      ∀ version (course : Course), ∃ last,
        next (.ok (some (Records.stored change.courseId version course))) =
          .ask (Records.writeOver coursesAt change.courseId version (merge course change)) last := by
  refine ⟨_, rfl, fun version course => ?_⟩
  have read : (Records.decode coursesAt (Records.stored change.courseId version course) :
      Except StoreError Course) = .ok course := Records.decode_stored ..
  have counted : (Document.get? versionKey (Records.stored change.courseId version course)).getD .null =
      .int64 version := Records.readVersion_stored ..
  show ∃ last, ((Program.ofExcept (Records.decode coursesAt
    (Records.stored change.courseId version course)) >>= _ :
      StoreProgram StoreError Course).mapError CurriculumError.store >>= fun _ => pure ()) = _
  rw [read]
  generalize (Document.get? versionKey (Records.stored change.courseId version course)).getD .null =
    previous at counted ⊢
  subst counted
  exact ⟨_, rfl⟩

/-- Where the version has come round, an update that has read the course without lessons passes its
guard. -/
theorem Enrolled.listAt_write {change : Course} (named : change.courseId = course.courseId)
    {rounds : Nat} (around : Int64.ofNat rounds = 0) {store : Store}
    (enrolled : Enrolled course lesson rounds rounds store) (spare : ObjectId) :
    (store.respond spare (Records.writeOver coursesAt change.courseId (1 + Int64.ofNat 0)
      (merge (roll course lesson 0) change))).2.listAt .lessons "" course.courseId = some [] := by
  have shelf := enrolled.listed
  rw [around] at shelf
  -- The guard is for the version of the entry again.
  have written := (@Store.Shelf.replaceOne _ _ _ _ _ shelf _ (List.mem_singleton_self _)
    (fun _ => ⟨2, merge (roll course lesson 0) change⟩) rfl rfl).2
  have changed : Store.Shelf.changeAt course.courseId
      (fun _ => ⟨2, merge (roll course lesson 0) change⟩) [(⟨1 + 0, roll course lesson rounds⟩ : Entry Course)] =
      [⟨2, merge (roll course lesson 0) change⟩] :=
    congrArg (· :: []) (if_pos rfl)
  rw [named]
  exact Store.Shelf.listAt_of_mem .lessons ((congrArg (Store.Shelf _ coursesAt) changed).mp written)
    (List.mem_singleton_self _)

/-- **An update that is overtaken takes effect.** It reads a course without lessons, and as many lessons
are created as it takes for the version to come round; then it takes them all off the list. -/
theorem overtaken_update_lands (usable : isDatabaseName course.courseId = true)
    (housed : ∀ n, (lesson n).courseRef = course.courseId)
    (apart : ∀ m n, (lesson m).lessonId = (lesson n).lessonId → m = n) {change : Course}
    (named : change.courseId = course.courseId) {start : Store}
    (begins : Enrolled course lesson 0 0 start) {rounds : Nat} (around : Int64.ofNat rounds = 0) :
    ∃ schedule, ∃ event ∈ ((Authoring.gathered
        (.updateCourse change :: (List.range rounds).map fun n => .createLesson (lesson n))
        start).run schedule).history, event.client = 0 ∧
      event.before.listAt .lessons "" course.courseId =
        some ((List.range rounds).map fun n => (lesson n).lessonId) ∧
      event.after.listAt .lessons "" course.courseId = some [] := by
  obtain ⟨next, asks, writes⟩ := updateCourse_eq_ask change
  obtain ⟨last, writes⟩ := writes (1 + Int64.ofNat 0) (roll course lesson 0)
  generalize gathered : Authoring.gathered
    (.updateCourse change :: (List.range rounds).map fun n => .createLesson (lesson n)) start = crowd
  have here : crowd.store = start := gathered ▸ rfl
  have first : crowd.programs[0]? =
      some (.ask ⟨.update, .findOne coursesAt (.byId change.courseId)⟩ next) := by
    rw [← gathered, ← asks]
    rfl
  have later : ∀ n, n < rounds →
      crowd.programs[1 + n]? = some (Curriculum.createLesson (lesson n) >>= fun _ => pure ()) := by
    intro n among
    rw [← gathered, Authoring.gathered, Crowd.gathered, List.map_cons, Nat.add_comm,
      List.getElem?_cons_succ, List.map_map, List.getElem?_map, List.getElem?_range among]
    rfl
  -- The update reads the course, the lessons are created, and the update writes.
  have read := Crowd.step_of_asks first ⟨0⟩
  have found : start.findOne coursesAt (.byId change.courseId) =
      some (Records.stored change.courseId (1 + Int64.ofNat 0) (roll course lesson 0)) := by
    rw [named]
    exact (begins.listed.findOne _).trans (congrArg (Option.map Entry.document)
      (Store.Shelf.find?_of_mem begins.listed.distinct (List.mem_singleton_self _)))
  have waits : (crowd.step ⟨0, ⟨0⟩⟩).programs[0]? = some (.ask _ last) := by
    rw [read, Crowd.programs_answered_self _ _ _ first, here, ← writes, ← found]
    rfl
  have running : ∀ n, n < rounds → (crowd.step ⟨0, ⟨0⟩⟩).programs[1 + n]? =
      some (Curriculum.createLesson (lesson n) >>= fun _ => pure ()) := by
    intro n among
    rw [read, Crowd.programs_answered_of_ne _ _ _ (by omega)]
    exact later n among
  obtain ⟨schedule, enrolled, others⟩ :=
    Crowd.exists_in_turn ⟨0⟩ (fun count => Enrolled course lesson count count) running
      (fun n => .bind (Enrolled.yields_createLesson usable housed apart n) fun _ => .done fun _ => id)
      (by
        rw [read, Crowd.store_answered, here]
        exact begins)
  have write := Crowd.step_of_asks ((others 0 Nat.zero_lt_one).trans waits) ⟨0⟩
  refine ⟨⟨0, ⟨0⟩⟩ :: (schedule ++ [⟨0, ⟨0⟩⟩]), ?_⟩
  have whole : crowd.run (⟨0, ⟨0⟩⟩ :: (schedule ++ [⟨0, ⟨0⟩⟩])) =
      ((crowd.step ⟨0, ⟨0⟩⟩).run schedule).step ⟨0, ⟨0⟩⟩ :=
    Crowd.run_append (crowd.step ⟨0, ⟨0⟩⟩) schedule _
  rw [whole, write]
  refine ⟨_, List.mem_append_right _ (List.mem_singleton_self _), rfl, ?_, ?_⟩
  · exact Store.Shelf.listAt_of_mem .lessons enrolled.listed (List.mem_singleton_self _)
  · exact enrolled.listAt_write named around ⟨0⟩

end Lessons

end Syllabus
