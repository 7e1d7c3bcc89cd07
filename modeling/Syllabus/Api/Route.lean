/-
**Routes.**

* `Route` — the resources of the interface, with parameters as sent or decoded;
* `Route.ofPath?` — the route of a path, matched segment by segment;
* `Route.decode` — a route with its parameters decoded, or the first that is no text;
* `Verb` — what can be done with a resource; `Route.verbs` — with which.
-/

import Syllabus.Text.Percent

namespace Syllabus

/-- The resources of the interface. -/
inductive Route where
  | health
  | courses
  | course (courseId : String)
  | lessons (courseRef : String)
  | lesson (courseRef lessonId : String)
  | contents (courseRef : String)
  | content (courseRef contentId : String)
  | users
  | user (userName : String)
  deriving DecidableEq

namespace Route

/-- The path of a request's target: what comes before a query or a fragment. -/
def path (target : String) : List Char :=
  target.toList.takeWhile fun c => c != '?' && c != '#'

/-- A path split at its slashes. -/
def segments : List Char → List (List Char)
  | [] => [[]]
  | '/' :: rest => [] :: segments rest
  | c :: rest =>
    match segments rest with
    | segment :: others => (c :: segment) :: others
    | [] => [[c]]

/-- The route of a path. A parameter is one segment, and only one with others behind it may be
empty. -/
def ofPath? (path : List Char) : Option Route :=
  match (segments path).map String.ofList with
  | ["", "health"] => some .health
  | ["", "course"] => some .courses
  | ["", "course", courseId] => if courseId.isEmpty then none else some (.course courseId)
  | ["", "course", courseRef, "lesson"] => some (.lessons courseRef)
  | ["", "course", courseRef, "lesson", lessonId] =>
    if lessonId.isEmpty then none else some (.lesson courseRef lessonId)
  | ["", "course", courseRef, "content"] => some (.contents courseRef)
  | ["", "course", courseRef, "content", contentId] =>
    if contentId.isEmpty then none else some (.content courseRef contentId)
  | ["", "user"] => some .users
  | ["", "user", userName] => if userName.isEmpty then none else some (.user userName)
  | _ => none

/-- A parameter decoded, or its name if its bytes are no text. -/
def decodeParameter (name value : String) : Except String String :=
  match Text.percentDecoded? value with
  | some text => .ok text
  | none => .error name

/-- A route with its parameters decoded, or the name of the first that is no text. -/
def decode : Route → Except String Route
  | .health => .ok .health
  | .courses => .ok .courses
  | .course courseId => do return .course (← decodeParameter "course_id" courseId)
  | .lessons courseRef => do return .lessons (← decodeParameter "course_ref" courseRef)
  | .lesson courseRef lessonId => do
    let courseRef ← decodeParameter "course_ref" courseRef
    let lessonId ← decodeParameter "lesson_id" lessonId
    return .lesson courseRef lessonId
  | .contents courseRef => do return .contents (← decodeParameter "course_ref" courseRef)
  | .content courseRef contentId => do
    let courseRef ← decodeParameter "course_ref" courseRef
    let contentId ← decodeParameter "content_id" contentId
    return .content courseRef contentId
  | .users => .ok .users
  | .user userName => do return .user (← decodeParameter "user_name" userName)

end Route

/-! ### Verbs -/

/-- What can be done with a resource. -/
inductive Verb where
  | get
  | post
  | put
  | delete
  deriving DecidableEq

/-- The verb of a method. A request for the headers alone is one to read. -/
def Verb.ofMethod? : String → Option Verb
  | "GET" | "HEAD" => some .get
  | "POST" => some .post
  | "PUT" => some .put
  | "DELETE" => some .delete
  | _ => none

/-- What can be done with the resource of a route: listings are read and added to, single records
read, changed and deleted. -/
def Route.verbs : Route → List Verb
  | .health => [.get]
  | .courses | .lessons _ | .contents _ | .users => [.get, .post]
  | .course _ | .lesson _ _ | .content _ _ | .user _ => [.get, .put, .delete]

end Syllabus
