/-
**Courses.**

A course's id is also the name of the database that holds its lessons and contents.
-/

import Syllabus.Record.Basic

namespace Syllabus

/-- A course. -/
structure Course where
  courseId : String
  title : String
  description : String
  instructors : List String
  moderators : List String
  startDate : Option Date
  endDate : Option Date
  /-- In weeks. -/
  duration : UInt32
  enrollmentStudents : List String
  /-- The ids of the course's lessons, kept by the creation and deletion of lessons. -/
  lessons : List String
  price : String
  createdAt : Option Instant
  deriving DecidableEq

namespace Course

/-- A course with nothing set. -/
def blank : Course where
  courseId := ""
  title := ""
  description := ""
  instructors := []
  moderators := []
  startDate := none
  endDate := none
  duration := 0
  enrollmentStudents := []
  lessons := []
  price := ""
  createdAt := none

/-- The template that addresses a course. -/
def withId (courseId : String) : Course :=
  { blank with courseId := courseId }

/-- The field of the membership list. -/
def lessonsField : String := "lessons"

/-- The fields, in order. -/
def fields : List (Field Course) := [
  .optional "courseId" courseId fun value course => { course with courseId := value },
  .optional "title" title fun value course => { course with title := value },
  .optional "description" description fun value course => { course with description := value },
  .optional "instructors" instructors fun value course => { course with instructors := value },
  .optional "moderators" moderators fun value course => { course with moderators := value },
  .optional "startDate" startDate fun value course => { course with startDate := value },
  .optional "endDate" endDate fun value course => { course with endDate := value },
  .optional "duration" duration fun value course => { course with duration := value },
  .optional "enrollmentStudents" enrollmentStudents
    fun value course => { course with enrollmentStudents := value },
  .optional lessonsField lessons fun value course => { course with lessons := value },
  .optional "price" price fun value course => { course with price := value },
  .optional "createdAt" createdAt fun value course => { course with createdAt := value }]

/-- An update sets everything but the id, the lessons and the time of creation. -/
def update (existing update : Course) : Course :=
  { existing with
    title := merge existing.title update.title
    description := merge existing.description update.description
    instructors := merge existing.instructors update.instructors
    moderators := merge existing.moderators update.moderators
    startDate := merge existing.startDate update.startDate
    endDate := merge existing.endDate update.endDate
    duration := merge existing.duration update.duration
    enrollmentStudents := merge existing.enrollmentStudents update.enrollmentStudents
    price := merge existing.price update.price }

instance : Record Course where
  blank := blank
  fields := fields
  merge := update
  kind := .course
  idField := "courseId"
  id := courseId
  course? _ := none
  uniqueFields _ := []

end Course

end Syllabus
