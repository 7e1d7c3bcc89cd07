/-
**Courses, lessons and contents, as they are listed.**

What the store keeps of the curriculum, as lists of entries, and the consistency of its membership
lists. The changes that the workflows make are functions on catalogs, and each keeps the consistency;
that the workflows make just these changes is another matter.

* `Catalog` — the courses, and for each course the lessons and contents of its database;
* `Catalog.Consistent` — the membership lists name the children, in order, and no child is orphaned;
* `Consistent.addCourse`, `Consistent.dropCourse` and the like — every change keeps it.
-/

import Syllabus.Proofs.Shelf

namespace Syllabus

/-- The namespace of the courses. -/
def coursesAt : Namespace :=
  ⟨systemDatabase, RecordKind.course.collection⟩

/-- The namespace of the lessons of a course. -/
def lessonsAt (course : String) : Namespace :=
  ⟨course, RecordKind.lesson.collection⟩

/-- The namespace of the contents of a course. -/
def contentsAt (course : String) : Namespace :=
  ⟨course, RecordKind.content.collection⟩

namespace Entry

/-- A course with its list of lessons edited. -/
def withLesson (membership : Membership) (child : String) (course : Entry Course) : Entry Course :=
  edited .lessons membership child course

/-- A lesson with its list of contents edited. -/
def withContent (membership : Membership) (child : String) (lesson : Entry Lesson) : Entry Lesson :=
  edited .contents membership child lesson

@[simp]
theorem key_withLesson (membership : Membership) (child : String) (course : Entry Course) :
    (course.withLesson membership child).key = course.key := rfl

@[simp]
theorem key_withContent (membership : Membership) (child : String) (lesson : Entry Lesson) :
    (lesson.withContent membership child).key = lesson.key := rfl

@[simp]
theorem lessons_withLesson (membership : Membership) (child : String) (course : Entry Course) :
    (course.withLesson membership child).record.lessons =
      membership.edited child course.record.lessons := rfl

@[simp]
theorem contents_withContent (membership : Membership) (child : String) (lesson : Entry Lesson) :
    (lesson.withContent membership child).record.contents =
      membership.edited child lesson.record.contents := rfl

end Entry

/-- Courses, and for each course lessons and contents. -/
structure Catalog where
  courses : List (Entry Course)
  lessons : String → List (Entry Lesson)
  contents : String → List (Entry Content)

namespace Catalog

/-- The catalog without courses. -/
def empty : Catalog where
  courses := []
  lessons _ := []
  contents _ := []

/-- The catalog with other courses. -/
def setCourses (catalog : Catalog) (entries : List (Entry Course)) : Catalog :=
  { catalog with courses := entries }

/-- The catalog with other lessons of one course. -/
def setLessons (catalog : Catalog) (course : String) (entries : List (Entry Lesson)) : Catalog :=
  { catalog with lessons := fun other => if other = course then entries else catalog.lessons other }

/-- The catalog with other contents of one course. -/
def setContents (catalog : Catalog) (course : String) (entries : List (Entry Content)) : Catalog :=
  { catalog with
    contents := fun other => if other = course then entries else catalog.contents other }

/-- The membership lists are those of the children in stored order, every child has its parent, and
every course a database. -/
structure Consistent (catalog : Catalog) : Prop where
  lessons : ∀ course ∈ catalog.courses,
    course.record.lessons = (catalog.lessons course.key).map Entry.key
  contents : ∀ c, ∀ lesson ∈ catalog.lessons c, lesson.record.contents =
    ((catalog.contents c).filter (·.record.lessonRef == lesson.key)).map Entry.key
  founded : ∀ c, catalog.lessons c ≠ [] → c ∈ catalog.courses.map Entry.key
  sheltered : ∀ c, ∀ content ∈ catalog.contents c,
    content.record.lessonRef ∈ (catalog.lessons c).map Entry.key
  usable : ∀ c ∈ catalog.courses.map Entry.key, isDatabaseName c = true

theorem consistent_empty : empty.Consistent where
  lessons := by simp [empty]
  contents := by simp [empty]
  founded := by simp [empty]
  sheltered := by simp [empty]
  usable := by simp [empty]

/-- The keys of lessons stay when one is changed and keeps its key. -/
theorem keys_setLessons {catalog : Catalog} {c l : String} {change : Entry Lesson → Entry Lesson}
    (keeps : ∀ lesson ∈ catalog.lessons c, lesson.key = l → (change lesson).key = l)
    (other : String) :
    ((catalog.setLessons c (Store.Shelf.changeAt l change (catalog.lessons c))).lessons other).map
      Entry.key = (catalog.lessons other).map Entry.key := by
  by_cases here : other = c
  · subst here
    simp only [setLessons, if_true]
    exact Store.Shelf.map_key_changeAt keeps
  · simp [setLessons, here]

/-- The keys of courses stay when the lessons that one lists change. -/
theorem map_key_withLesson (membership : Membership) (c l : String) (courses : List (Entry Course)) :
    (Store.Shelf.changeAt c (Entry.withLesson membership l) courses).map Entry.key =
      courses.map Entry.key :=
  Store.Shelf.map_key_changeAt fun _ _ same => (Entry.key_withLesson ..).trans same

namespace Consistent

open Store.Shelf (changeAt map_key_changeAt)

variable {catalog : Catalog} (consistent : catalog.Consistent)

include consistent

/-- Where there are no lessons, there are no contents. -/
theorem contents_eq_nil {c : String} (none : catalog.lessons c = []) : catalog.contents c = [] := by
  refine List.eq_nil_iff_forall_not_mem.mpr fun content known => ?_
  have parent := consistent.sheltered c content known
  rw [none] at parent
  cases parent

/-- Where there is no course, there are no lessons. -/
theorem lessons_eq_nil {c : String} (absent : c ∉ catalog.courses.map Entry.key) :
    catalog.lessons c = [] :=
  Classical.byContradiction fun some => absent (consistent.founded c some)

/-- A lesson that is not there has no contents. -/
theorem no_contents {c l : String} (absent : l ∉ (catalog.lessons c).map Entry.key) :
    ∀ content ∈ catalog.contents c, content.record.lessonRef ≠ l :=
  fun content known same => absent (same ▸ consistent.sheltered c content known)

/-! ### Courses -/

theorem addCourse {course : Entry Course} (fresh : course.key ∉ catalog.courses.map Entry.key)
    (childless : course.record.lessons = []) (named : isDatabaseName course.key = true) :
    (catalog.setCourses (catalog.courses ++ [course])).Consistent where
  lessons := by
    intro other member
    rcases List.mem_append.mp member with before | here
    · exact consistent.lessons other before
    · rw [List.mem_singleton.mp here, childless]
      simp [setCourses, consistent.lessons_eq_nil fresh]
  contents := consistent.contents
  founded := by
    intro c some
    have founder := consistent.founded c some
    simp [setCourses, founder]
  sheltered := consistent.sheltered
  usable := by
    intro c member
    rw [setCourses, List.map_append] at member
    rcases List.mem_append.mp member with before | here
    · exact consistent.usable c before
    · rw [List.mem_singleton.mp here]
      exact named

theorem dropCourse {c : String} (childless : catalog.lessons c = []) :
    (catalog.setCourses (catalog.courses.filter (·.key != c))).Consistent where
  lessons := fun other member => consistent.lessons other (List.mem_filter.mp member).1
  contents := consistent.contents
  founded := by
    intro other some
    obtain ⟨founder, known, same⟩ := List.mem_map.mp (consistent.founded other some)
    have kept : founder.key ≠ c := by
      intro here
      exact some (same ▸ here ▸ childless)
    exact List.mem_map.mpr ⟨founder, List.mem_filter.mpr ⟨known, by simpa using kept⟩, same⟩
  sheltered := consistent.sheltered
  usable := fun other member =>
    consistent.usable other ((List.filter_sublist.map Entry.key).subset member)

theorem changeCourse {c : String} {change : Entry Course → Entry Course}
    (keeps : ∀ course ∈ catalog.courses, course.key = c →
      (change course).key = c ∧ (change course).record.lessons = course.record.lessons) :
    (catalog.setCourses (changeAt c change catalog.courses)).Consistent where
  lessons := by
    intro changed member
    obtain ⟨course, known, rfl⟩ := List.mem_map.mp member
    by_cases here : course.key = c
    · obtain ⟨key, same⟩ := keeps course known here
      rw [if_pos here, same, key, consistent.lessons course known, here]
      rfl
    · rw [if_neg here]
      exact consistent.lessons course known
  contents := consistent.contents
  founded := by
    intro other some
    show other ∈ (changeAt c change catalog.courses).map Entry.key
    rw [map_key_changeAt fun course known here => (keeps course known here).1]
    exact consistent.founded other some
  sheltered := consistent.sheltered
  usable := by
    show ∀ other ∈ (changeAt c change catalog.courses).map Entry.key, _
    rw [map_key_changeAt fun course known here => (keeps course known here).1]
    exact consistent.usable

/-! ### Lessons -/

theorem addLesson {c : String} {lesson : Entry Lesson} (founder : c ∈ catalog.courses.map Entry.key)
    (fresh : lesson.key ∉ (catalog.lessons c).map Entry.key)
    (childless : lesson.record.contents = []) :
    ((catalog.setLessons c (catalog.lessons c ++ [lesson])).setCourses
      (changeAt c (Entry.withLesson .push lesson.key) catalog.courses)).Consistent where
  lessons := by
    intro changed member
    obtain ⟨course, known, rfl⟩ := List.mem_map.mp member
    have listed := consistent.lessons course known
    by_cases here : course.key = c
    · subst here
      simp [setCourses, setLessons, listed, Membership.edited]
    · simp [here, setCourses, setLessons, listed]
  contents := by
    intro other entry member
    by_cases here : other = c
    · subst here
      simp only [setCourses, setLessons, if_true] at member ⊢
      rcases List.mem_append.mp member with before | last
      · exact consistent.contents other entry before
      · -- Contents of a lesson that was not there would have been without a lesson.
        rw [List.mem_singleton.mp last, childless, List.filter_eq_nil_iff.mpr, List.map_nil]
        exact fun content known orphan =>
          consistent.no_contents fresh content known (eq_of_beq orphan)
    · simp only [setCourses, setLessons, if_neg here] at member ⊢
      exact consistent.contents other entry member
  founded := by
    intro other some
    show other ∈ (changeAt c (Entry.withLesson .push lesson.key) catalog.courses).map Entry.key
    rw [map_key_withLesson]
    by_cases here : other = c
    · exact here ▸ founder
    · exact consistent.founded other (by simpa [setCourses, setLessons, here] using some)
  sheltered := by
    intro other content member
    have parent := consistent.sheltered other content member
    by_cases here : other = c
    · subst here
      simp [setCourses, setLessons, parent]
    · simpa [setCourses, setLessons, here] using parent
  usable := by
    show ∀ other ∈ (changeAt c (Entry.withLesson .push lesson.key) catalog.courses).map Entry.key, _
    rw [map_key_withLesson]
    exact consistent.usable

theorem dropLesson {c l : String}
    (childless : ∀ content ∈ catalog.contents c, content.record.lessonRef ≠ l) :
    ((catalog.setLessons c ((catalog.lessons c).filter (·.key != l))).setCourses
      (changeAt c (Entry.withLesson .pull l) catalog.courses)).Consistent where
  lessons := by
    intro changed member
    obtain ⟨course, known, rfl⟩ := List.mem_map.mp member
    have listed := consistent.lessons course known
    by_cases here : course.key = c
    · subst here
      simp [setCourses, setLessons, listed, Membership.edited, List.filter_map, Function.comp_def]
    · simp [here, setCourses, setLessons, listed]
  contents := by
    intro other entry member
    by_cases here : other = c
    · subst here
      simp only [setCourses, setLessons, if_true] at member ⊢
      exact consistent.contents other entry (List.mem_filter.mp member).1
    · simp only [setCourses, setLessons, if_neg here] at member ⊢
      exact consistent.contents other entry member
  founded := by
    intro other some
    show other ∈ (changeAt c (Entry.withLesson .pull l) catalog.courses).map Entry.key
    rw [map_key_withLesson]
    refine consistent.founded other ?_
    by_cases here : other = c
    · subst here
      intro none
      simp [setCourses, setLessons, none] at some
    · simpa [setCourses, setLessons, here] using some
  sheltered := by
    intro other content member
    obtain ⟨parent, there, same⟩ := List.mem_map.mp (consistent.sheltered other content member)
    by_cases here : other = c
    · subst here
      have kept : parent.key ≠ l := fun gone => childless content member (same ▸ gone)
      have still : parent ∈ (catalog.lessons other).filter (·.key != l) :=
        List.mem_filter.mpr ⟨there, by simpa using kept⟩
      simpa [setCourses, setLessons] using ⟨parent, ⟨there, kept⟩, same⟩
    · simpa [setCourses, setLessons, here] using ⟨parent, there, same⟩
  usable := by
    show ∀ other ∈ (changeAt c (Entry.withLesson .pull l) catalog.courses).map Entry.key, _
    rw [map_key_withLesson]
    exact consistent.usable

/-! ### Contents, and lessons that keep their keys -/

/-- Where courses and the keys of lessons stay, consistency is a matter of the lists of contents. -/
theorem of_same_keys {next : Catalog} (courses : next.courses = catalog.courses)
    (keys : ∀ c, (next.lessons c).map Entry.key = (catalog.lessons c).map Entry.key)
    (contents : ∀ c, ∀ lesson ∈ next.lessons c, lesson.record.contents =
      ((next.contents c).filter (·.record.lessonRef == lesson.key)).map Entry.key)
    (sheltered : ∀ c, ∀ content ∈ next.contents c,
      content.record.lessonRef ∈ (catalog.lessons c).map Entry.key) : next.Consistent where
  lessons := by
    intro course known
    rw [courses] at known
    rw [keys]
    exact consistent.lessons course known
  contents := contents
  founded := by
    intro c some
    rw [courses]
    refine consistent.founded c fun none => some ?_
    have nothing := keys c
    rw [none, List.map_nil, List.map_eq_nil_iff] at nothing
    exact nothing
  sheltered := by
    intro c content known
    rw [keys]
    exact sheltered c content known
  usable := by
    rw [courses]
    exact consistent.usable

theorem changeLesson {c l : String} {change : Entry Lesson → Entry Lesson}
    (keeps : ∀ lesson ∈ catalog.lessons c, lesson.key = l →
      (change lesson).key = l ∧ (change lesson).record.contents = lesson.record.contents) :
    (catalog.setLessons c (changeAt l change (catalog.lessons c))).Consistent := by
  refine consistent.of_same_keys rfl
    (keys_setLessons fun lesson known same => (keeps lesson known same).1) ?_
    consistent.sheltered
  intro other entry member
  by_cases here : other = c
  · subst here
    simp only [setLessons, if_true] at member ⊢
    obtain ⟨lesson, known, rfl⟩ := List.mem_map.mp member
    have listed := consistent.contents other lesson known
    by_cases same : lesson.key = l
    · obtain ⟨key, contents⟩ := keeps lesson known same
      rw [if_pos same, contents, key, listed, same]
    · rw [if_neg same]
      exact listed
  · simp only [setLessons, if_neg here] at member ⊢
    exact consistent.contents other entry member

theorem addContent {c : String} {content : Entry Content}
    (parent : content.record.lessonRef ∈ (catalog.lessons c).map Entry.key) :
    ((catalog.setContents c (catalog.contents c ++ [content])).setLessons c
      (changeAt content.record.lessonRef (Entry.withContent .push content.key)
        (catalog.lessons c))).Consistent := by
  refine consistent.of_same_keys rfl
    (keys_setLessons fun lesson _ same => (Entry.key_withContent ..).trans same) ?_ ?_
  · intro other entry member
    by_cases here : other = c
    · subst here
      simp only [setLessons, setContents, if_true] at member ⊢
      obtain ⟨lesson, known, rfl⟩ := List.mem_map.mp member
      have listed := consistent.contents other lesson known
      by_cases same : lesson.key = content.record.lessonRef
      · simp [same, listed, Membership.edited]
      · simp [same, Ne.symm same, listed]
    · simp only [setLessons, setContents, if_neg here] at member ⊢
      exact consistent.contents other entry member
  · intro other entry member
    by_cases here : other = c
    · subst here
      simp only [setLessons, setContents, if_true] at member
      rcases List.mem_append.mp member with before | last
      · exact consistent.sheltered other entry before
      · rw [List.mem_singleton.mp last]
        exact parent
    · simp only [setLessons, setContents, if_neg here] at member
      exact consistent.sheltered other entry member

theorem dropContent {c : String} {content : Entry Content}
    (distinct : ((catalog.contents c).map Entry.key).Nodup) (there : content ∈ catalog.contents c) :
    ((catalog.setContents c ((catalog.contents c).filter (·.key != content.key))).setLessons c
      (changeAt content.record.lessonRef (Entry.withContent .pull content.key)
        (catalog.lessons c))).Consistent := by
  refine consistent.of_same_keys rfl
    (keys_setLessons fun lesson _ same => (Entry.key_withContent ..).trans same) ?_ ?_
  · intro other entry member
    by_cases here : other = c
    · subst here
      simp only [setLessons, setContents, if_true] at member ⊢
      obtain ⟨lesson, known, rfl⟩ := List.mem_map.mp member
      have listed := consistent.contents other lesson known
      by_cases same : lesson.key = content.record.lessonRef
      · simp [same, listed, Membership.edited, List.filter_map, Function.comp_def, Bool.and_comm]
      · -- The content that leaves is of another lesson.
        have others : (catalog.contents other).filter (fun entry =>
            entry.record.lessonRef == lesson.key && entry.key != content.key) =
            (catalog.contents other).filter (·.record.lessonRef == lesson.key) := by
          refine List.filter_congr fun entry known => ?_
          by_cases this : entry.key = content.key
          · rw [Store.Shelf.eq_of_key_eq distinct known there this]
            simp [Ne.symm same]
          · simp [this]
        simp [same, listed, others]
    · simp only [setLessons, setContents, if_neg here] at member ⊢
      exact consistent.contents other entry member
  · intro other entry member
    by_cases here : other = c
    · subst here
      simp only [setLessons, setContents, if_true] at member
      exact consistent.sheltered other entry (List.mem_filter.mp member).1
    · simp only [setLessons, setContents, if_neg here] at member
      exact consistent.sheltered other entry member

theorem changeContent {c k : String} {change : Entry Content → Entry Content}
    (keeps : ∀ content ∈ catalog.contents c, content.key = k → (change content).key = k ∧
      (change content).record.lessonRef = content.record.lessonRef) :
    (catalog.setContents c (changeAt k change (catalog.contents c))).Consistent := by
  refine consistent.of_same_keys rfl (fun _ => rfl) ?_ ?_
  · intro other lesson known
    have listed := consistent.contents other lesson known
    by_cases here : other = c
    · subst here
      simp only [setContents, if_true]
      rw [listed, changeAt, List.filter_map, List.map_map]
      have others : (catalog.contents other).filter ((·.record.lessonRef == lesson.key) ∘
          fun entry => if entry.key = k then change entry else entry) =
          (catalog.contents other).filter (·.record.lessonRef == lesson.key) := by
        refine List.filter_congr fun entry known => ?_
        by_cases this : entry.key = k
        · simp [this, (keeps entry known this).2]
        · simp [this]
      rw [others]
      refine List.map_congr_left fun entry member => ?_
      by_cases this : entry.key = k
      · simp [this, (keeps entry (List.mem_filter.mp member).1 this).1]
      · simp [this]
    · simpa [setContents, here] using listed
  · intro other entry member
    by_cases here : other = c
    · subst here
      simp only [setContents, if_true] at member
      obtain ⟨content, known, rfl⟩ := List.mem_map.mp member
      by_cases this : content.key = k
      · rw [if_pos this, (keeps content known this).2]
        exact consistent.sheltered other content known
      · rw [if_neg this]
        exact consistent.sheltered other content known
    · simp only [setContents, if_neg here] at member
      exact consistent.sheltered other entry member

end Consistent

end Catalog

end Syllabus
