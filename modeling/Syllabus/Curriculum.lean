/-
**Courses, lessons and contents together.**

A course lists its lessons and a lesson its contents. The workflows keep the lists in step with the
records: a child is created before it is listed and deleted before it is taken off the list.

* `CurriculumError` — an error of the store, a list that did not follow its child, or a parent that
  still has children; `CurriculumError.message` — their wording;
* `Curriculum.createCourse`, `Curriculum.deleteCourse` and the like — the workflows.
-/

import Syllabus.Record.Content
import Syllabus.Record.Course
import Syllabus.Record.Lesson
import Syllabus.Records

namespace Syllabus

/-- Why a workflow failed. -/
inductive CurriculumError where
  | store (error : StoreError)
  /-- The child was written, but the list of its parent did not follow. -/
  | partialSync (action child parent : String) (cause : StoreError)
  /-- A record cannot be deleted while it has children. -/
  | notEmpty (kind : RecordKind) (id field : String) (remaining : Nat)
  deriving DecidableEq

/-- The wording of an error. -/
def CurriculumError.message : CurriculumError → String
  | .store error => error.message
  | .partialSync action child parent cause =>
    child ++ " was written but " ++ action ++ " on " ++ parent ++ " failed: " ++ cause.message
  | .notEmpty kind id field remaining =>
    kind.text ++ " '" ++ id ++ "' still has " ++ String.ofList (Text.numeral remaining) ++ " " ++
      field

namespace Curriculum

/-- A program on records as a part of a workflow. -/
def records {α : Type} (program : StoreProgram StoreError α) : StoreProgram CurriculumError α :=
  program.mapError .store

/-- Edits the list of a parent after its child was written. -/
def syncParent {ρ : Type} [Record ρ] (parent : ρ) (membership : Membership)
    (field child : String) : StoreProgram CurriculumError Unit :=
  (Records.sync parent membership field child).mapError
    (.partialSync membership.text child
      ((Record.kind ρ).text ++ " '" ++ Record.id parent ++ "'"))

/-- Fails if a record still has children. -/
def ensureEmpty (kind : RecordKind) (id field : String) (children : List String) :
    StoreProgram CurriculumError Unit :=
  if children.isEmpty then .done () else .fail (.notEmpty kind id field children.length)

/-! ### Courses -/

/-- Creates a course without lessons at the given time. Its id has to be usable as the name of a
database. -/
def createCourse (now : Instant) (course : Course) : StoreProgram CurriculumError Course := do
  records (Program.ofExcept (checkDatabaseName course.courseId))
  let course := { course with lessons := [], createdAt := some now }
  records (Records.checkUnique course)
  records (Records.create course)
  return course

/-- Updates a course. -/
def updateCourse (change : Course) : StoreProgram CurriculumError Course :=
  records (Records.update change)

/-- Deletes a course that has no lessons. -/
def deleteCourse (courseId : String) : StoreProgram CurriculumError Unit := do
  let course ← records (Records.get (Course.withId courseId))
  ensureEmpty .course course.courseId Course.lessonsField course.lessons
  records (Records.delete course)

/-! ### Lessons -/

/-- Creates a lesson without contents and lists it in its course. -/
def createLesson (lesson : Lesson) : StoreProgram CurriculumError Lesson := do
  let course ← records (Records.get (Course.withId lesson.courseRef))
  let lesson := { lesson with contents := [] }
  records (Records.checkUnique lesson)
  records (Records.create lesson)
  syncParent course .push Course.lessonsField lesson.lessonId
  return lesson

/-- Updates a lesson. -/
def updateLesson (change : Lesson) : StoreProgram CurriculumError Lesson :=
  records (Records.update change)

/-- Deletes a lesson that has no contents and takes it off the list of its course. -/
def deleteLesson (courseRef lessonId : String) : StoreProgram CurriculumError Unit := do
  let lesson ← records (Records.get (Lesson.withId courseRef lessonId))
  ensureEmpty .lesson lesson.lessonId Lesson.contentsField lesson.contents
  records (Records.delete lesson)
  syncParent (Course.withId courseRef) .pull Course.lessonsField lessonId

/-! ### Contents -/

/-- Creates a content and lists it in its lesson. -/
def createContent (content : Content) : StoreProgram CurriculumError Content := do
  let lesson ← records (Records.get (Lesson.withId content.courseRef content.lessonRef))
  records (Records.checkUnique content)
  records (Records.create content)
  syncParent lesson .push Lesson.contentsField content.contentId
  return content

/-- Updates a content. -/
def updateContent (change : Content) : StoreProgram CurriculumError Content :=
  records (Records.update change)

/-- Deletes a content and takes it off the list of its lesson. -/
def deleteContent (courseRef contentId : String) : StoreProgram CurriculumError Unit := do
  let content ← records (Records.get (Content.withId courseRef contentId))
  records (Records.delete content)
  syncParent (Lesson.withId courseRef content.lessonRef) .pull Lesson.contentsField contentId

end Curriculum

end Syllabus
