/-
**Kinds of records and namespaces.**

* `RecordKind` — the four kinds of records, with the words and collections they go by;
* `Namespace` — a database and a collection in it.
-/

namespace Syllabus

/-- The kinds of records. -/
inductive RecordKind where
  | course
  | lesson
  | content
  | user
  deriving DecidableEq

namespace RecordKind

/-- The kind as reports name it. -/
def text : RecordKind → String
  | .course => "course"
  | .lesson => "lesson"
  | .content => "content"
  | .user => "user"

/-- The collection of the kind's records. -/
def collection : RecordKind → String
  | .course => "courses"
  | .lesson => "lessons"
  | .content => "contents"
  | .user => "users"

/-- The kind is kept in the database of a course. -/
def isCourseScoped : RecordKind → Bool
  | .lesson | .content => true
  | .course | .user => false

end RecordKind

/-- A database and a collection in it. -/
structure Namespace where
  database : String
  collection : String
  deriving DecidableEq

/-- A namespace as reports name it. -/
def Namespace.text (ns : Namespace) : String :=
  ns.database ++ "." ++ ns.collection

end Syllabus
