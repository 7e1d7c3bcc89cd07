/-
**Children and the lists they belong on.**

A lesson belongs on the list of its course and a content on the list of its lesson. Either is a bond,
and both are looked at together: whether the child is stored, whether the parent lists it, and what the
writes of the workflows do to this.

* `Bond` — a child and its parent; `Store.Holds`, `Store.Lists` — the child is stored, and listed;
* `Store.NoOrphans` — every child that is stored is listed; `Store.Kept` — the courses, lessons and
  contents are records under their keys; `Sound.kept_and_noOrphans` — a tidy store is both;
* `Alters.lists_of_insertion`, `Alters.lists_of_deletion`, `lists_of_edit` — what is listed after a write;
  `holds_of_insertion`, `holds_of_edit` and the like — what is stored.
-/

import Syllabus.Proofs.Keyed
import Syllabus.Proofs.Workflows

namespace Syllabus

/-- A child and the parent whose list it belongs on. -/
inductive Bond where
  | lesson (course lesson : String)
  | content (course lesson content : String)
  deriving DecidableEq

namespace Bond

/-- The course whose database holds the child. -/
def course : Bond → String
  | .lesson c _ => c
  | .content c _ _ => c

/-- The kind of the parent. -/
def parentKind : Bond → RecordKind
  | .lesson _ _ => .course
  | .content _ _ _ => .lesson

/-- The kind of the child. -/
def childKind : Bond → RecordKind
  | .lesson _ _ => .lesson
  | .content _ _ _ => .content

/-- The key of the parent. -/
def parent : Bond → String
  | .lesson c _ => c
  | .content _ l _ => l

/-- The key of the child. -/
def child : Bond → String
  | .lesson _ l => l
  | .content _ _ k => k

/-- The list that the child belongs on. -/
def listing : (bond : Bond) → Listing bond.parentKind
  | .lesson _ _ => .lessons
  | .content _ _ _ => .contents

theorem parentKind_ne_user (bond : Bond) : bond.parentKind ≠ .user := by
  cases bond <;> nofun

theorem childKind_ne_user (bond : Bond) : bond.childKind ≠ .user := by
  cases bond <;> nofun

/-- Where the parent is kept. -/
def parentNs (bond : Bond) : Namespace :=
  bond.parentKind.home bond.course

/-- Where the child is kept. -/
def childNs (bond : Bond) : Namespace :=
  bond.childKind.home bond.course

/-- A record under the key of the child is a child of this parent. -/
def Takes : (bond : Bond) → bond.childKind.Carrier → Prop
  | .lesson _ _, _ => True
  | .content _ l _, record => Content.lessonRef record = l

/-- The edit of the parent's list that adds the child, or removes it. -/
abbrev request (bond : Bond) (membership : Membership) : Request :=
  .editMembership bond.parentNs bond.parent membership bond.listing.field (.string bond.child)

/-- Children of one parent are told apart by their keys. -/
theorem eq_of_child_eq {bond other : Bond} (ns : bond.parentNs = other.parentNs)
    (parent : bond.parent = other.parent) (child : bond.child = other.child) : bond = other := by
  have database := congrArg Namespace.database ns
  cases bond <;> cases other
  case lesson.content | content.lesson => cases RecordKind.eq_of_home_eq ns
  case lesson.lesson => exact congr (congrArg Bond.lesson parent) child
  case content.content => exact congr (congr (congrArg Bond.content database) parent) child

theorem eq_of_request_eq {bond other : Bond} {membership membership' : Membership}
    (same : bond.request membership = other.request membership') :
    bond = other ∧ membership = membership' := by
  injection same with ns parent edit field child
  exact ⟨eq_of_child_eq ns parent (Bson.string.inj child), edit⟩

end Bond

/-- Who is on a list after an edit. -/
theorem Membership.mem_edited (membership : Membership) (other child : String)
    (members : List String) : other ∈ membership.edited child members ↔
      (other ∈ members ∨ (other = child ∧ membership = .push)) ∧
        ¬ (other = child ∧ membership = .pull) := by
  cases membership <;> simp [edited]

namespace Store

/-- The child is stored, as a child of this parent. -/
def Holds (store : Store) : Bond → Prop
  | .lesson c l => ∃ lesson, store.recordAt .lesson (lessonsAt c) l = some lesson
  | .content c l k => ∃ content, store.recordAt .content (contentsAt c) k = some content ∧
      Content.lessonRef content = l

/-- The parent is stored and lists the child. -/
def Lists (store : Store) : Bond → Prop
  | .lesson c l => ∃ course, store.recordAt .course coursesAt c = some course ∧
      l ∈ Course.lessons course
  | .content c l k => ∃ lesson, store.recordAt .lesson (lessonsAt c) l = some lesson ∧
      k ∈ Lesson.contents lesson

/-- Every child that is stored has its parent, which lists it. -/
def NoOrphans (store : Store) : Prop :=
  ∀ bond, store.Holds bond → store.Lists bond

/-- The courses, lessons and contents are kept as records, under their keys and at their places. -/
def Kept (store : Store) : Prop :=
  ∀ kind, kind ≠ .user → ∀ course, store.Shelved kind (kind.home course)

theorem holds_iff (store : Store) (bond : Bond) : store.Holds bond ↔
    ∃ record, store.recordAt bond.childKind bond.childNs bond.child = some record ∧
      bond.Takes record := by
  cases bond with
  | lesson c l => simp [Holds, Bond.Takes, Bond.childKind, Bond.childNs, Bond.child]; rfl
  | content c l k => exact Iff.rfl

theorem lists_iff (store : Store) (bond : Bond) : store.Lists bond ↔
    ∃ record, store.recordAt bond.parentKind bond.parentNs bond.parent = some record ∧
      bond.child ∈ bond.listing.members record := by
  cases bond <;> exact Iff.rfl

/-- All children of one parent are looked for on one list. -/
theorem lists_iff_of_parent {store : Store} {bond other : Bond} (ns : bond.parentNs = other.parentNs)
    (parent : bond.parent = other.parent) : store.Lists bond ↔
    ∃ record, store.recordAt other.parentKind other.parentNs other.parent = some record ∧
      bond.child ∈ other.listing.members record := by
  rw [lists_iff, ns, parent]
  cases bond <;> cases other
  case lesson.content | content.lesson => cases RecordKind.eq_of_home_eq ns
  case lesson.lesson | content.content => exact Iff.rfl

/-- What is stored under a key is the child of one parent. -/
theorem eq_of_holds {store : Store} {bond other : Bond} (ns : other.childNs = bond.childNs)
    (child : other.child = bond.child) (here : store.Holds bond) (there : store.Holds other) :
    other = bond := by
  have database := congrArg Namespace.database ns
  cases bond <;> cases other
  case lesson.content | content.lesson => cases RecordKind.eq_of_home_eq ns
  case lesson.lesson => exact congr (congrArg Bond.lesson database) child
  case content.content =>
    cases database
    cases child
    obtain ⟨_, found, under⟩ := here
    obtain ⟨_, same, above⟩ := there
    cases found.symm.trans same
    exact congrArg (fun lesson => Bond.content _ lesson _) (above.symm.trans under)

theorem Keeps.kept {store : Store} {catalog : Catalog} (keeps : store.Keeps catalog) :
    store.Kept := by
  intro kind someone c
  cases kind with
  | course => exact ⟨_, keeps.courses⟩
  | lesson => exact ⟨_, keeps.lessons c⟩
  | content => exact ⟨_, keeps.contents c⟩
  | user => exact absurd rfl someone

/-- A tidy store is kept, and has no orphans. -/
theorem Sound.kept_and_noOrphans {store : Store} (tidy : store.Tidy) :
    store.Kept ∧ store.NoOrphans := by
  obtain ⟨catalog, keeps, consistent, _⟩ := tidy
  refine ⟨keeps.kept, fun bond holds => ?_⟩
  cases bond with
  | lesson c l =>
    obtain ⟨lesson, found⟩ := holds
    obtain ⟨entry, member, keyed, _⟩ := (keeps.lessons c).recordAt_eq_some_iff.mp found
    obtain ⟨course, known, rfl⟩ :=
      List.mem_map.mp (consistent.founded c (List.ne_nil_of_mem member))
    refine ⟨course.record, keeps.courses.recordAt_of_mem known, ?_⟩
    rw [consistent.lessons course known, ← keyed]
    exact List.mem_map_of_mem member
  | content c l k =>
    obtain ⟨content, found, parent⟩ := holds
    obtain ⟨entry, member, keyed, same⟩ := (keeps.contents c).recordAt_eq_some_iff.mp found
    obtain ⟨lesson, known, above⟩ := List.mem_map.mp (consistent.sheltered c entry member)
    have here : lesson.key = l := above.trans ((congrArg Content.lessonRef same).trans parent)
    subst here
    refine ⟨lesson.record, (keeps.lessons c).recordAt_of_mem known, ?_⟩
    rw [consistent.contents c lesson known, ← keyed]
    exact List.mem_map_of_mem (List.mem_filter.mpr ⟨member, beq_iff_eq.mpr above.symm⟩)

/-! ### After a write -/

namespace Alters

variable {kind : RecordKind} {c id : String} {old next : Store}

/-- An alteration is at one place, and elsewhere the records are as they were. -/
theorem recordAt_home {value : Option kind.Carrier} (alters : Alters kind old next (kind.home c) id value)
    (other : RecordKind) (d key : String) :
    (other.home d = kind.home c ∧ key = id) ∨
      next.recordAt other (other.home d) key = old.recordAt other (other.home d) key := by
  by_cases there : other.home d = kind.home c
  · by_cases same : key = id
    · exact .inl ⟨there, same⟩
    · cases RecordKind.eq_of_home_eq there
      rw [there, alters.here, if_neg same]
      exact .inr rfl
  · exact .inr (recordAt_of_documents_eq (alters.elsewhere _ there) key)

theorem kept {value : Option kind.Carrier} (alters : Alters kind old next (kind.home c) id value)
    (kept : old.Kept) : next.Kept := by
  intro other someone d
  by_cases there : other.home d = kind.home c
  · cases RecordKind.eq_of_home_eq there
    rw [there]
    exact alters.shelved
  · exact (kept other someone d).of_documents_eq (alters.elsewhere _ there)

theorem lists_of_ne {value : Option kind.Carrier} (alters : Alters kind old next (kind.home c) id value)
    {bond : Bond} (other : ¬ (bond.parentNs = kind.home c ∧ bond.parent = id)) :
    next.Lists bond ↔ old.Lists bond := by
  rw [lists_iff, lists_iff, Bond.parentNs,
    (alters.recordAt_home bond.parentKind bond.course bond.parent).resolve_left other]

/-- A new record lists nothing, so no list is changed. -/
theorem lists_of_insertion {record : kind.Carrier}
    (alters : Alters kind old next (kind.home c) id (some record))
    (fresh : old.recordAt kind (kind.home c) id = none)
    (childless : ∀ listing : Listing kind, listing.members record = []) (bond : Bond) :
    next.Lists bond ↔ old.Lists bond := by
  by_cases here : bond.parentNs = kind.home c ∧ bond.parent = id
  · obtain ⟨ns, parent⟩ := here
    cases RecordKind.eq_of_home_eq ns
    rw [lists_iff, lists_iff, ns, parent, fresh, alters.here, if_pos rfl]
    simp [childless]
  · exact alters.lists_of_ne here

/-- A deletion takes the list of the parent along. -/
theorem lists_of_deletion (alters : Alters kind old next (kind.home c) id none) (bond : Bond) :
    next.Lists bond ↔ old.Lists bond ∧ ¬ (bond.parentNs = kind.home c ∧ bond.parent = id) := by
  by_cases here : bond.parentNs = kind.home c ∧ bond.parent = id
  · obtain ⟨ns, parent⟩ := here
    cases RecordKind.eq_of_home_eq ns
    rw [lists_iff, ns, parent, alters.here, if_pos rfl]
    simp
  · rw [alters.lists_of_ne here, and_iff_left here]

/-- A new record under a key is the only child that can be new. -/
theorem holds_of_ne {value : Option kind.Carrier} (alters : Alters kind old next (kind.home c) id value)
    {bond : Bond} (other : ¬ (bond.childNs = kind.home c ∧ bond.child = id)) :
    next.Holds bond ↔ old.Holds bond := by
  rw [holds_iff, holds_iff, Bond.childNs,
    (alters.recordAt_home bond.childKind bond.course bond.child).resolve_left other]

theorem holds_of_deletion (alters : Alters kind old next (kind.home c) id none) {bond : Bond}
    (holds : next.Holds bond) : old.Holds bond := by
  by_cases here : bond.childNs = kind.home c ∧ bond.child = id
  · obtain ⟨ns, child⟩ := here
    cases RecordKind.eq_of_home_eq ns
    rw [holds_iff, ns, child, alters.here, if_pos rfl] at holds
    obtain ⟨_, impossible, _⟩ := holds
    cases impossible
  · exact (alters.holds_of_ne here).mp holds

end Alters

/-- After the insertion of a child, no other child is new. -/
theorem holds_of_insertion {old next : Store} {bond other : Bond} {record : bond.childKind.Carrier}
    (alters : Alters bond.childKind old next bond.childNs bond.child (some record))
    (takes : bond.Takes record) (holds : next.Holds other) : old.Holds other ∨ other = bond := by
  by_cases here : other.childNs = bond.childNs ∧ other.child = bond.child
  · have new : next.Holds bond :=
      (holds_iff _ _).mpr ⟨record, (alters.here _).trans (if_pos rfl), takes⟩
    exact .inr (eq_of_holds here.1 here.2 new holds)
  · exact .inl ((Alters.holds_of_ne (c := bond.course) alters here).mp holds)

/-- An edit of a list adds the child, or removes it. -/
theorem lists_of_edit {old next : Store} {edited : Bond} {membership : Membership}
    {record : edited.parentKind.Carrier}
    (there : old.recordAt edited.parentKind edited.parentNs edited.parent = some record)
    (alters : Alters edited.parentKind old next edited.parentNs edited.parent
      (some (edited.listing.edited membership edited.child record))) (bond : Bond) :
    next.Lists bond ↔ (old.Lists bond ∨ (bond = edited ∧ membership = .push)) ∧
      ¬ (bond = edited ∧ membership = .pull) := by
  by_cases here : bond.parentNs = edited.parentNs ∧ bond.parent = edited.parent
  · obtain ⟨ns, parent⟩ := here
    have same_iff : bond = edited ↔ bond.child = edited.child :=
      ⟨congrArg Bond.child, Bond.eq_of_child_eq ns parent⟩
    have now : next.Lists bond ↔
        bond.child ∈ membership.edited edited.child (edited.listing.members record) := by
      rw [lists_iff_of_parent ns parent, alters.here, if_pos rfl]
      simp only [Option.some.injEq, exists_eq_left', Listing.members_edited]
    have before : old.Lists bond ↔ bond.child ∈ edited.listing.members record := by
      rw [lists_iff_of_parent ns parent, there]
      simp only [Option.some.injEq, exists_eq_left']
    rw [now, before, same_iff]
    exact membership.mem_edited bond.child edited.child _
  · have different : bond ≠ edited := fun same => here (same ▸ ⟨rfl, rfl⟩)
    rw [Alters.lists_of_ne (c := edited.course) alters here]
    simp [different]

/-- An edit of a list leaves the children. -/
theorem holds_of_edit {old next : Store} {edited : Bond} {membership : Membership}
    {record : edited.parentKind.Carrier}
    (there : old.recordAt edited.parentKind edited.parentNs edited.parent = some record)
    (alters : Alters edited.parentKind old next edited.parentNs edited.parent
      (some (edited.listing.edited membership edited.child record))) {bond : Bond}
    (holds : next.Holds bond) : old.Holds bond := by
  by_cases here : bond.childNs = edited.parentNs ∧ bond.child = edited.parent
  · obtain ⟨ns, child⟩ := here
    cases bond <;> cases edited
    case lesson.lesson | content.lesson | content.content => cases RecordKind.eq_of_home_eq ns
    case lesson.content =>
      rw [holds_iff, ns, child]
      exact ⟨record, there, trivial⟩
  · exact (Alters.holds_of_ne (c := edited.course) alters here).mp holds

end Store

end Syllabus
