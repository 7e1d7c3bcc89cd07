/-
**Lessons.**
-/

import Syllabus.Record.Basic

namespace Syllabus

/-- A lesson of a course. -/
structure Lesson where
  lessonId : String
  /-- The course whose database holds the lesson. -/
  courseRef : String
  title : String
  description : String
  /-- The ids of the lesson's contents, kept by the creation and deletion of contents. -/
  contents : List String
  deriving DecidableEq

namespace Lesson

/-- A lesson with nothing set. -/
def blank : Lesson where
  lessonId := ""
  courseRef := ""
  title := ""
  description := ""
  contents := []

/-- The template that addresses a lesson. -/
def withId (courseRef lessonId : String) : Lesson :=
  { blank with lessonId := lessonId, courseRef := courseRef }

/-- The field of the membership list. -/
def contentsField : String := "contents"

/-- The fields, in order. -/
def fields : List (Field Lesson) := [
  .optional "lessonId" lessonId fun value lesson => { lesson with lessonId := value },
  .optional "courseRef" courseRef fun value lesson => { lesson with courseRef := value },
  .optional "title" title fun value lesson => { lesson with title := value },
  .optional "description" description fun value lesson => { lesson with description := value },
  .optional contentsField contents fun value lesson => { lesson with contents := value }]

/-- An update sets title and description. -/
def update (existing update : Lesson) : Lesson :=
  { existing with
    title := merge existing.title update.title
    description := merge existing.description update.description }

instance : Record Lesson where
  blank := blank
  fields := fields
  merge := update
  kind := .lesson
  idField := "lessonId"
  id := lessonId
  course? lesson := some lesson.courseRef
  uniqueFields _ := []

end Lesson

end Syllabus
