/-
**Contents.**
-/

import Syllabus.Record.Basic

namespace Syllabus

/-- A content of a lesson: a video, a resource, a quiz, a lab. -/
structure Content where
  contentId : String
  /-- The course whose database holds the content. -/
  courseRef : String
  /-- The lesson that lists the content. -/
  lessonRef : String
  name : String
  kind : String
  url : String
  /-- In minutes. -/
  duration : UInt32
  deriving DecidableEq

namespace Content

/-- A content with nothing set. -/
def blank : Content where
  contentId := ""
  courseRef := ""
  lessonRef := ""
  name := ""
  kind := ""
  url := ""
  duration := 0

/-- The template that addresses a content. -/
def withId (courseRef contentId : String) : Content :=
  { blank with contentId := contentId, courseRef := courseRef }

/-- The fields, in order. -/
def fields : List (Field Content) := [
  .optional "contentId" contentId fun value content => { content with contentId := value },
  .optional "courseRef" courseRef fun value content => { content with courseRef := value },
  .optional "lessonRef" lessonRef fun value content => { content with lessonRef := value },
  .optional "name" name fun value content => { content with name := value },
  .optional "type" kind fun value content => { content with kind := value },
  .optional "url" url fun value content => { content with url := value },
  .optional "duration" duration fun value content => { content with duration := value }]

/-- An update sets name, kind, address and duration. -/
def update (existing update : Content) : Content :=
  { existing with
    name := merge existing.name update.name
    kind := merge existing.kind update.kind
    url := merge existing.url update.url
    duration := merge existing.duration update.duration }

instance : Record Content where
  blank := blank
  fields := fields
  merge := update
  kind := .content
  idField := "contentId"
  id := contentId
  course? content := some content.courseRef
  uniqueFields _ := []

end Content

end Syllabus
