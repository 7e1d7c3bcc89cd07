/-
**Handlers.**

* `Occasion` — what a request draws from outside: the time and an id nobody has;
* `Body.decode` — the record in the body of a request;
* `Handler.handle` — what a request does with the resource of a route, as a program of store calls.
  The parameters of the path go before what the body says of them.
-/

import Syllabus.Api.Reply
import Syllabus.Api.Route
import Syllabus.Http.MediaType
import Syllabus.Record.User

namespace Syllabus

/-- What a request draws from outside. -/
structure Occasion where
  now : Instant
  /-- An id that nobody has. -/
  freshId : String

/-! ### Bodies -/

namespace Body

/-- The most bytes of a body that is read. This is the default of the router by itself; a service that is
started with settings reads up to `ApiSettings.maxRequestSizeBytes` of them instead. -/
def maxBytes : Nat := 2 * 1024 * 1024

/-- What a client is told of a body that does not decode. -/
def faultMessage : Fault → String
  | .malformed => "Failed to parse the request body as JSON"
  | .mismatch => "Failed to deserialize the JSON body into the target type"

/-- The request says that its body is JSON. -/
def isJson (request : Http.Request) : Bool :=
  match Http.header? Http.contentType request.headers with
  | some header => ((Http.MediaType.read? header).map (·.isJson)).getD false
  | none => false

/-- The record in the body of a request, whatever follows its text. -/
def decode {α : Type} [Codec α] (request : Http.Request) : Except ApiError α :=
  if !isJson request then
    .error (.invalidJson "Expected request with `Content-Type: application/json`")
  else if maxBytes < request.body.utf8ByteSize then
    .error (.invalidJson "Failed to buffer the request body")
  else match (Codec.ofTextFront request.body : Except Fault α) with
    | .ok value => .ok value
    | .error fault => .error (.invalidJson (faultMessage fault))

end Body

/-! ### Resources -/

namespace Handler

/-- A program on records, its errors as a client sees them. -/
def records {α : Type} (program : StoreProgram StoreError α) : StoreProgram ApiError α :=
  program.mapError .ofStore

/-- A workflow, its errors as a client sees them. -/
def workflow {α : Type} (program : StoreProgram CurriculumError α) : StoreProgram ApiError α :=
  program.mapError .ofCurriculum

/-- The record in the body of a request. -/
def body {α : Type} [Codec α] (request : Http.Request) : StoreProgram ApiError α :=
  Program.ofExcept (Body.decode request)

/-- The id that the body gives, or a fresh one where it gives none. -/
def idOrFresh (occasion : Occasion) (id : String) : String :=
  if id.isEmpty then occasion.freshId else id

/-- All records that share the template's place. -/
def listed {ρ : Type} [Record ρ] (template : ρ) : StoreProgram ApiError Reply := do
  return .success (← records (Records.list template))

/-- The record that the template addresses. -/
def shown {ρ : Type} [Record ρ] (template : ρ) : StoreProgram ApiError Reply := do
  return .success (← records (Records.get template))

/-- Creates a course from the body. -/
def createCourse (occasion : Occasion) (request : Http.Request) : StoreProgram ApiError Reply := do
  let course : Course ← body request
  return .created (← workflow (Curriculum.createCourse occasion.now course))

/-- Updates a course with the body. -/
def updateCourse (request : Http.Request) (courseId : String) : StoreProgram ApiError Reply := do
  let change : Course ← body request
  let course ← workflow (Curriculum.updateCourse { change with courseId := courseId })
  return .success course

/-- Creates a lesson of the course from the body. -/
def createLesson (occasion : Occasion) (request : Http.Request) (courseRef : String) :
    StoreProgram ApiError Reply := do
  let lesson : Lesson ← body request
  let lesson := { lesson with
    courseRef := courseRef
    lessonId := idOrFresh occasion lesson.lessonId }
  return .created (← workflow (Curriculum.createLesson lesson))

/-- Updates a lesson of the course with the body. -/
def updateLesson (request : Http.Request) (courseRef lessonId : String) :
    StoreProgram ApiError Reply := do
  let change : Lesson ← body request
  let lesson ← workflow
    (Curriculum.updateLesson { change with courseRef := courseRef, lessonId := lessonId })
  return .success lesson

/-- Creates a content of the course from the body, which has to name the lesson. -/
def createContent (occasion : Occasion) (request : Http.Request) (courseRef : String) :
    StoreProgram ApiError Reply := do
  let content : Content ← body request
  if content.lessonRef.isEmpty then .fail (.badRequest "lessonRef is required")
  else
    let content := { content with
      courseRef := courseRef
      contentId := idOrFresh occasion content.contentId }
    return .created (← workflow (Curriculum.createContent content))

/-- Updates a content of the course with the body. -/
def updateContent (request : Http.Request) (courseRef contentId : String) :
    StoreProgram ApiError Reply := do
  let change : Content ← body request
  let content ← workflow
    (Curriculum.updateContent { change with courseRef := courseRef, contentId := contentId })
  return .success content

/-- Registers a user from the body. -/
def registerUser (request : Http.Request) : StoreProgram ApiError Reply := do
  let user : User ← body request
  if user.userName.isEmpty then .fail (.badRequest "userName is required")
  else
    records (Records.checkUnique user)
    records (Records.create user)
    return .created user

/-- Updates a user with the body. -/
def updateUser (request : Http.Request) (userName : String) : StoreProgram ApiError Reply := do
  let change : User ← body request
  let user ← records (Records.update { change with userName := userName })
  return .success user

/-- Tells that the store is there. -/
def health (backendName : String) : StoreProgram ApiError Reply := do
  records Records.ping
  return .success (Json.object [("status", .string "ok"), ("backend", .string backendName)])

/-- What a request does with the resource of a route; nothing where the verb does not suit it. -/
def handle (backendName : String) (occasion : Occasion) (request : Http.Request) :
    Verb → Route → Option (StoreProgram ApiError Reply)
  | .get, .health => health backendName
  | .get, .courses => listed Course.blank
  | .post, .courses => createCourse occasion request
  | .get, .course courseId => shown (Course.withId courseId)
  | .put, .course courseId => updateCourse request courseId
  | .delete, .course courseId => done (workflow (Curriculum.deleteCourse courseId))
  | .get, .lessons courseRef => listed (Lesson.withId courseRef "")
  | .post, .lessons courseRef => createLesson occasion request courseRef
  | .get, .lesson courseRef lessonId => shown (Lesson.withId courseRef lessonId)
  | .put, .lesson courseRef lessonId => updateLesson request courseRef lessonId
  | .delete, .lesson courseRef lessonId =>
    done (workflow (Curriculum.deleteLesson courseRef lessonId))
  | .get, .contents courseRef => listed (Content.withId courseRef "")
  | .post, .contents courseRef => createContent occasion request courseRef
  | .get, .content courseRef contentId => shown (Content.withId courseRef contentId)
  | .put, .content courseRef contentId => updateContent request courseRef contentId
  | .delete, .content courseRef contentId =>
    done (workflow (Curriculum.deleteContent courseRef contentId))
  | .get, .users => listed User.blank
  | .post, .users => registerUser request
  | .get, .user userName => shown (User.withId userName)
  | .put, .user userName => updateUser request userName
  | .delete, .user userName => done (records (Records.delete (User.withId userName)))
  | _, _ => none
where
  /-- A program with nothing to tell. -/
  done (program : StoreProgram ApiError Unit) : StoreProgram ApiError Reply := do
    program
    return .noContent

/-- The verbs that suit a route are those that have a handler. -/
theorem handle_isSome_iff (backendName : String) (occasion : Occasion) (request : Http.Request)
    (verb : Verb) (route : Route) :
    (handle backendName occasion request verb route).isSome ↔ verb ∈ route.verbs := by
  cases verb <;> cases route <;> simp [handle, Route.verbs]

end Handler

end Syllabus
