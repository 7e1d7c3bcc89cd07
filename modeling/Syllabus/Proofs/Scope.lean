/-
**What a request may touch.**

The path of a request tells what its handler works on: on the records of one course, on the users, or on
nothing, as far as writing is concerned.

* `Route.area`, `Route.course?` — the first segment of a route's paths, and the course that they name;
* `Incoming.course?` — the course that a request is addressed to, by its path or its body;
* `Handler.confined_handle`, `Handler.at_users`, `Handler.reads_get` — the handlers of a course, those of
  the users, and those that only read;
* **`Handled.scope`** — every request that reaches a handler is one of these.
-/

import Syllabus.Proofs.StaysWithin
import Syllabus.Proofs.Traffic
import Syllabus.Proofs.View

namespace Syllabus

/-! ### Whom a request is addressed to -/

namespace Route

/-- The first segment of the paths of a route. -/
def area : Route → String
  | .health => "health"
  | .courses | .course _ | .lessons _ | .lesson _ _ | .contents _ | .content _ _ => "course"
  | .users | .user _ => "user"

/-- The course that the paths of a route name. -/
def course? : Route → Option String
  | .course c | .lessons c | .lesson c _ | .contents c | .content c _ => some c
  | .health | .courses | .users | .user _ => none

theorem segments_of_ofPath? {path : List Char} {route : Route} (found : ofPath? path = some route) :
    ∃ rest, (segments path).map String.ofList = "" :: route.area :: rest := by
  unfold ofPath? at found
  repeat' split at found
  all_goals cases found
  all_goals exact ⟨_, ‹_›⟩

theorem course?_of_decode {raw route : Route} (decoded : raw.decode = .ok route) :
    route.course? = raw.course?.bind Text.percentDecoded? ∧ route.area = raw.area ∧
      (route = .courses ↔ raw = .courses) := by
  cases raw with
  | health | courses | users => cases decoded; simp [course?, area]
  | course c | lessons c | contents c =>
    obtain ⟨text, same, made⟩ := parameter_of_bind decoded
    cases made
    simp [course?, area, same]
  | user userName =>
    obtain ⟨text, same, made⟩ := parameter_of_bind decoded
    cases made
    simp [course?, area]
  | lesson c l | content c l =>
    obtain ⟨text, same, made⟩ := parameter_of_bind decoded
    obtain ⟨_, _, made⟩ := parameter_of_bind made
    cases made
    simp [course?, area, same]

end Route

/-- The namespace of the users. -/
def usersAt : Namespace :=
  ⟨systemDatabase, RecordKind.user.collection⟩

namespace Handler

open Curriculum

variable {backendName : String} {occasion : Occasion} {request : Http.Request} {verb : Verb}
  {route : Route} {program : StoreProgram ApiError Reply} {c : String}

theorem confined_reply {ε α : Type} {ends : α → Prop} {program : StoreProgram ε α}
    (confined : StaysWithin c ends program) (change : ε → ApiError) (reply : α → Reply) :
    StaysWithin c (fun _ => True)
      (program.mapError change >>= fun value => (pure (reply value) : StoreProgram ApiError Reply)) :=
  .bind (.mapError confined change) fun _ _ => .done _ trivial

theorem confined_body {α : Type} [Codec α] {next : α → StoreProgram ApiError Reply}
    (rest : ∀ value, Body.decode request = .ok value → StaysWithin c (fun _ => True) (next value)) :
    StaysWithin c (fun _ => True) (body request >>= next) :=
  .bind (.ofExcept _) rest

/-- The handler of a route with a course keeps to the course. -/
theorem confined_handle (handled : handle backendName occasion request verb route = some program)
    (named : route.course? = some c) : StaysWithin c (fun _ => True) program := by
  cases verb <;> cases route <;> cases handled <;> cases named
  case get.course =>
    exact confined_reply (Records.confined_get .course (Course.keyOf c) fun _ => Course.place_eq) _ _
  case get.lessons =>
    have placed : ∀ ns, Record.place (Lesson.withId c "") = .ok ns → ns = lessonsAt c :=
      fun _ => Lesson.place_eq
    exact confined_reply (Records.confined_list .lesson placed rfl) _ _
  case get.lesson =>
    exact confined_reply (Records.confined_get .lesson (Lesson.keyOf c _) fun _ => Lesson.place_eq) _ _
  case get.contents =>
    have placed : ∀ ns, Record.place (Content.withId c "") = .ok ns → ns = contentsAt c :=
      fun _ => Content.place_eq
    exact confined_reply (Records.confined_list .content placed rfl) _ _
  case get.content =>
    exact confined_reply (Records.confined_get .content (Content.keyOf c _)
      fun _ => Content.place_eq) _ _
  case post.lessons =>
    exact confined_body fun lesson _ => confined_reply (confined_createLesson (by rfl)) _ _
  case post.contents =>
    refine confined_body fun content _ => ?_
    split
    · exact .fail _
    · exact confined_reply (confined_createContent (by rfl)) _ _
  case put.course =>
    exact confined_body fun change _ => confined_reply (confined_updateCourse (by rfl)) _ _
  case put.lesson =>
    exact confined_body fun change _ => confined_reply (confined_updateLesson (by rfl)) _ _
  case put.content =>
    exact confined_body fun change _ => confined_reply (confined_updateContent (by rfl)) _ _
  case delete.course => exact confined_reply (confined_deleteCourse c) _ _
  case delete.lesson l => exact confined_reply (confined_deleteLesson c l) _ _
  case delete.content k => exact confined_reply (confined_deleteContent c k) _ _

/-- The handlers for users are at the namespace of the users. -/
theorem at_users (handled : handle backendName occasion request verb route = some program)
    (area : route.area = "user") : program.Asks (Call.At usersAt) := by
  have reply : ∀ {ε α : Type} {program : StoreProgram ε α} {change : ε → ApiError} {reply : α → Reply},
      program.Asks (Call.At usersAt) →
      (program.mapError change >>= fun value => (pure (reply value) : StoreProgram ApiError Reply)).Asks
        (Call.At usersAt) :=
    fun there => .bind (.mapError there _) fun _ => .done _
  cases verb <;> cases route <;> cases handled <;> try (simp [Route.area] at area; done)
  case get.users => exact reply (Records.at_list rfl)
  case get.user => exact reply (Records.at_get rfl)
  case post.users =>
    refine .bind (.ofExcept _) fun user => ?_
    split
    · exact .fail _
    · refine .bind (.mapError ((Records.asks_checkUnique rfl).mono fun _ => Call.Counts.at) _)
        fun _ => ?_
      exact reply (Records.at_create rfl)
  case put.user => exact .bind (.ofExcept _) fun change => reply (Records.at_update rfl)
  case delete.user => exact reply (Records.at_delete rfl)

/-- Whoever reads does not write. -/
theorem reads_get (handled : handle backendName occasion request .get route = some program) :
    program.Asks Call.Reads := by
  have reply : ∀ {ε α : Type} {program : StoreProgram ε α} {change : ε → ApiError} {reply : α → Reply},
      program.Asks Call.Reads →
      (program.mapError change >>= fun value => (pure (reply value) : StoreProgram ApiError Reply)).Asks
        Call.Reads :=
    fun reads => .bind (.mapError reads _) fun _ => .done _
  cases route <;> cases handled
  case health => exact reply Records.asks_ping
  case courses | lessons | contents | users => exact reply (Records.asks_list _)
  case course | lesson | content | user => exact reply (Records.asks_get _)

end Handler

namespace Incoming

/-- The first segment of the path. -/
def area? (incoming : Incoming) : Option String :=
  match (Route.segments (Route.path incoming.request.target)).map String.ofList with
  | "" :: first :: _ => some first
  | _ => none

/-- The course of the body, if a course can be read from it. -/
def bodyCourse? (incoming : Incoming) : Option String :=
  match (Codec.ofTextFront incoming.request.body : Except Fault Course) with
  | .ok course => some course.courseId
  | .error _ => none

/-- The course that the request is addressed to: the one that its path names, decoded, or the one that is
to be created from its body. -/
def course? (incoming : Incoming) : Option String :=
  match Route.ofPath? (Route.path incoming.request.target) with
  | none => none
  | some .courses => if incoming.request.method = "POST" then incoming.bodyCourse? else none
  | some route => route.course?.bind Text.percentDecoded?

variable {incoming : Incoming} {verb : Verb} {route : Route} {program : StoreProgram ApiError Reply}

theorem method_of_post (posted : Verb.ofMethod? incoming.request.method = some .post) :
    incoming.request.method = "POST" := by
  unfold Verb.ofMethod? at posted
  split at posted
  all_goals cases posted
  assumption

/-- A body that decodes names the course that is to be created. -/
theorem bodyCourse?_of_decode {course : Course}
    (read : Body.decode incoming.request = .ok course) :
    incoming.bodyCourse? = some course.courseId := by
  unfold Body.decode at read
  split at read
  · cases read
  · split at read
    · cases read
    · split at read
      · next same =>
        cases read
        rw [bodyCourse?, same]
      · cases read

theorem Handled.area?_eq (handled : incoming.Handled verb route program) :
    incoming.area? = some route.area := by
  obtain ⟨raw, path, decoded⟩ := handled.path
  obtain ⟨rest, segments⟩ := Route.segments_of_ofPath? path
  rw [area?, segments, (Route.course?_of_decode decoded).2.1]
  rfl

theorem Handled.course?_eq (handled : incoming.Handled verb route program) :
    incoming.course? =
      if route = .courses then if incoming.request.method = "POST" then incoming.bodyCourse? else none
      else route.course? := by
  obtain ⟨raw, path, decoded⟩ := handled.path
  obtain ⟨named, _, courses⟩ := Route.course?_of_decode decoded
  unfold course?
  rw [path, named]
  by_cases all : raw = .courses
  · rw [if_pos (courses.mpr all), all]
  · rw [if_neg (mt courses.mp all)]
    cases raw <;> first | rfl | exact absurd rfl all

/-- **The scope of a request** that reaches a handler: the course that it is addressed to, the users, or
nothing that it writes to. -/
theorem Handled.scope (handled : incoming.Handled verb route program) :
    (∃ c, incoming.course? = some c ∧ incoming.area? = some "course" ∧
      StaysWithin c (fun _ => True) program) ∨
    (incoming.course? = none ∧ incoming.area? = some "user" ∧ program.Asks (Call.At usersAt)) ∨
    (incoming.course? = none ∧ incoming.area? ≠ some "user" ∧ program.Asks Call.Reads) := by
  have area := handled.area?_eq
  have whose := handled.course?_eq
  have handler := handled.handler
  cases named : route.course? with
  | some c =>
    have other : route ≠ .courses := by
      rintro rfl
      cases named
    rw [if_neg other, named] at whose
    refine .inl ⟨c, whose, ?_, Handler.confined_handle handler named⟩
    rw [area]
    cases route <;> first | rfl | cases named
  | none =>
    cases route with
    | course | lessons | lesson | contents | content => cases named
    | users | user =>
      exact .inr (.inl ⟨whose, area, Handler.at_users handler rfl⟩)
    | health =>
      refine .inr (.inr ⟨whose, by rw [area]; decide, ?_⟩)
      cases verb <;> first | exact Handler.reads_get handler | cases handler
    | courses =>
      rw [if_pos rfl] at whose
      have elsewhere : incoming.area? ≠ some "user" := by
        rw [area]
        decide
      cases verb with
      | put | delete => cases handler
      | get =>
        have other : incoming.request.method ≠ "POST" := by
          intro posted
          have method := handled.method
          rw [posted] at method
          cases method
        rw [if_neg other] at whose
        exact .inr (.inr ⟨whose, elsewhere, Handler.reads_get handler⟩)
      | post =>
        rw [if_pos (method_of_post handled.method)] at whose
        cases handler
        cases read : (Body.decode incoming.request : Except ApiError Course) with
        | ok course =>
          refine .inl ⟨course.courseId, whose.trans (bodyCourse?_of_decode read), area, ?_⟩
          refine Handler.confined_body fun value same => ?_
          cases read.symm.trans same
          exact Handler.confined_reply (Curriculum.confined_createCourse _ rfl) _ _
        | error error =>
          rw [Handler.createCourse, Handler.body_bind_of_error read]
          cases named : incoming.bodyCourse? with
          | none => exact .inr (.inr ⟨whose.trans named, elsewhere, .fail error⟩)
          | some c => exact .inl ⟨c, whose.trans named, area, .fail error⟩

end Incoming

end Syllabus
