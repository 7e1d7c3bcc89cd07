/-
**Partial updates compose.**

Two updates made one after the other are one update, an update made again changes nothing, and an
update that sets nothing changes nothing. This is so for every type that is put together from texts,
truth values, numbers, lists, dates, instants and roles by optional values, boxes and records, whatever
fields of a record an update may set.

* `Unset` — a type with updates that set nothing: zeros, none, and records that set no field;
* `LawfulMerge`, `LawfulUnset` — a type whose updates compose, and one where those that set nothing change
  nothing;
* `Settable`, `mergeFields` — the fields of a record that an update sets, and the record after it;
* `mergeFields_assoc` — updates of some fields compose if those of each field do;
* `Merge.Built` — the types that are put together so; **`partial_updates_compose`** — their updates.
-/

import Syllabus.Record.Content
import Syllabus.Record.Course
import Syllabus.Record.Lesson
import Syllabus.Record.User

namespace Syllabus

/-- A type with updates that are meant to change nothing. -/
class Unset (α : Type) where
  /-- The update sets nothing. -/
  isUnset : α → Bool

export Unset (isUnset)

instance : Unset String := ⟨(·.isEmpty)⟩
instance : Unset Bool := ⟨(!·)⟩
instance : Unset Int32 := ⟨(· == 0)⟩
instance : Unset Int64 := ⟨(· == 0)⟩
instance : Unset UInt32 := ⟨(· == 0)⟩
instance : Unset UInt64 := ⟨(· == 0)⟩
instance : Unset USize := ⟨(· == 0)⟩
instance {α : Type} : Unset (List α) := ⟨(·.isEmpty)⟩
instance {α : Type} : Unset (Option α) := ⟨(·.isNone)⟩

/-- Every date sets something, and so does every instant and every role. -/
instance : Unset Date := ⟨fun _ => false⟩
instance : Unset Instant := ⟨fun _ => false⟩
instance : Unset Role := ⟨fun _ => false⟩

/-- A type whose updates compose: two in turn are one, and a value updated with itself stays. -/
class LawfulMerge (α : Type) [Merge α] : Prop where
  merge_assoc : ∀ existing first second : α,
    merge (merge existing first) second = merge existing (merge first second)
  merge_self : ∀ existing : α, merge existing existing = existing

/-- A type whose updates compose, and where a value updated with nothing stays. -/
class LawfulUnset (α : Type) [Merge α] [Unset α] : Prop extends LawfulMerge α where
  merge_unset : ∀ existing update : α, isUnset update = true → merge existing update = existing

/-- An update that is made again changes nothing. -/
theorem LawfulMerge.merge_again {α : Type} [Merge α] [LawfulMerge α] (existing update : α) :
    merge (merge existing update) update = merge existing update := by
  rw [merge_assoc, merge_self]

namespace LawfulUnset

open LawfulMerge

variable {α : Type}

/-- Values that a zero leaves unset. -/
theorem unlessZero (isZero : α → Bool) : @LawfulUnset α (.unlessZero isZero) ⟨isZero⟩ := by
  let _ : Merge α := .unlessZero isZero
  let _ : Unset α := ⟨isZero⟩
  have merges : ∀ existing update : α,
      merge existing update = if isZero update then existing else update := fun _ _ => rfl
  refine { merge_assoc := ?assoc, merge_self := ?self, merge_unset := ?unset }
  case assoc =>
    intro existing first second
    by_cases zero : isZero second <;> simp [merges, zero]
  case self => simp [merges]
  case unset =>
    intro existing update unset
    have zero : isZero update = true := unset
    simp [merges, zero]

/-- Values that every update replaces. -/
theorem replacing : @LawfulUnset α .replacing ⟨fun _ => false⟩ := by
  let _ : Merge α := .replacing
  let _ : Unset α := ⟨fun _ => false⟩
  refine { merge_assoc := ?assoc, merge_self := ?self, merge_unset := ?unset }
  case assoc => exact fun _ _ _ => rfl
  case self => exact fun _ => rfl
  case unset => exact fun _ _ => Bool.noConfusion

/-- Optional values of such a type. Where there was none, an update is taken as it is; made again, it is
merged with itself. -/
instance option [Merge α] [LawfulMerge α] : LawfulUnset (Option α) where
  merge_assoc existing first second := by
    show mergeOption (mergeOption existing first) second = mergeOption existing (mergeOption first second)
    cases existing <;> cases first <;> cases second <;> simp [mergeOption, merge_assoc]
  merge_self existing := by
    show mergeOption existing existing = existing
    cases existing <;> simp [mergeOption, merge_self]
  merge_unset existing update unset := by
    show mergeOption existing update = existing
    rw [Option.isNone_iff_eq_none.mp unset]
    cases existing <;> rfl

end LawfulUnset

/-! ### Boxes -/

/-- A value in a place of its own. -/
structure Boxed (α : Type) where
  value : α

/-- An update is made in the place. -/
instance Boxed.merging {α : Type} [Merge α] : Merge (Boxed α) where
  merge existing update := ⟨merge existing.value update.value⟩

instance Boxed.unset {α : Type} [Unset α] : Unset (Boxed α) where
  isUnset update := isUnset update.value

instance Boxed.lawful {α : Type} [Merge α] [Unset α] [LawfulUnset α] : LawfulUnset (Boxed α) where
  merge_assoc _ _ _ := congrArg Boxed.mk (LawfulMerge.merge_assoc ..)
  merge_self _ := congrArg Boxed.mk (LawfulMerge.merge_self _)
  merge_unset _ _ unset := congrArg Boxed.mk (LawfulUnset.merge_unset _ _ unset)

/-! ### Fields -/

/-- A field of records that an update may set. -/
structure Settable (ρ : Type) where
  Value : Type
  merging : Merge Value
  unset : Unset Value
  get : ρ → Value
  set : Value → ρ → ρ
  get_set : ∀ value record, get (set value record) = value
  set_get : ∀ record, set (get record) record = record
  set_set : ∀ first second record, set second (set first record) = set second record

/-- A field that can be got and set. -/
def Settable.of {ρ α : Type} [merging : Merge α] [unset : Unset α] (get : ρ → α) (set : α → ρ → ρ)
    (get_set : ∀ value record, get (set value record) = value := by exact fun _ _ => rfl)
    (set_get : ∀ record, set (get record) record = record := by exact fun _ => rfl)
    (set_set : ∀ first second record, set second (set first record) = set second record := by
      exact fun _ _ _ => rfl) : Settable ρ :=
  ⟨α, merging, unset, get, set, get_set, set_get, set_set⟩

/-- The record with what the update sets in the fields, one after another; the other fields stay. -/
def mergeFields {ρ : Type} (fields : List (Settable ρ)) (existing update : ρ) : ρ :=
  fields.foldl
    (fun record field => field.set (field.merging.merge (field.get record) (field.get update)) record)
    existing

/-- The update sets none of the fields. -/
def unsetFields {ρ : Type} (fields : List (Settable ρ)) (update : ρ) : Bool :=
  fields.all fun field => field.unset.isUnset (field.get update)

namespace Settable

variable {ρ : Type}

/-- The record with what the update sets in one field. -/
def overlay (field : Settable ρ) (update record : ρ) : ρ :=
  field.set (field.merging.merge (field.get record) (field.get update)) record

/-- Two fields that can be set in either order. -/
def Apart (field other : Settable ρ) : Prop :=
  ∀ value value' record,
    field.set value (other.set value' record) = other.set value' (field.set value record)

variable {field other : Settable ρ}

theorem Apart.symm (apart : field.Apart other) : other.Apart field :=
  fun value value' record => (apart value' value record).symm

/-- Setting one of them leaves the other. -/
theorem Apart.get_set (apart : field.Apart other) (value : field.Value) (record : ρ) :
    other.get (field.set value record) = other.get record := by
  have set_back := apart value (other.get record) record
  rw [other.set_get] at set_back
  rw [set_back, other.get_set]

@[simp]
theorem get_overlay_self (field : Settable ρ) (update record : ρ) :
    field.get (field.overlay update record) =
      field.merging.merge (field.get record) (field.get update) :=
  field.get_set _ _

theorem Apart.get_overlay (apart : field.Apart other) (update record : ρ) :
    other.get (field.overlay update record) = other.get record :=
  apart.get_set _ _

theorem Apart.overlay_comm (apart : field.Apart other) (first second record : ρ) :
    field.overlay second (other.overlay first record) =
      other.overlay first (field.overlay second record) := by
  unfold overlay
  rw [apart.symm.get_set, apart.get_set, apart]

/-- The updates of the field compose. -/
abbrev Lawful (field : Settable ρ) : Prop :=
  @LawfulUnset field.Value field.merging field.unset

/-- Two overlays of one field are the overlay of any update that sets both there. -/
theorem Lawful.overlay_overlay (lawful : field.Lawful) {first second both : ρ}
    (sets : field.get both = field.merging.merge (field.get first) (field.get second)) (record : ρ) :
    field.overlay second (field.overlay first record) = field.overlay both record := by
  have composed := lawful.merge_assoc (field.get record) (field.get first) (field.get second)
  rw [overlay, get_overlay_self, composed, overlay, field.set_set, overlay, sets]

theorem Lawful.overlay_self (lawful : field.Lawful) (record : ρ) :
    field.overlay record record = record := by
  rw [overlay, lawful.merge_self, field.set_get]

theorem Lawful.overlay_unset (lawful : field.Lawful) {update : ρ}
    (unset : field.unset.isUnset (field.get update) = true) (record : ρ) :
    field.overlay update record = record := by
  rw [overlay, lawful.merge_unset _ _ unset, field.set_get]

end Settable

section Fields

variable {ρ : Type} {fields : List (Settable ρ)} {existing update : ρ}

theorem mergeFields_cons (field : Settable ρ) (fields : List (Settable ρ)) (existing update : ρ) :
    mergeFields (field :: fields) existing update =
      mergeFields fields (field.overlay update existing) update := rfl

/-- A field apart from those that are set stays. -/
theorem get_mergeFields_of_apart {field : Settable ρ} (apart : ∀ other ∈ fields, other.Apart field) :
    field.get (mergeFields fields existing update) = field.get existing := by
  induction fields generalizing existing with
  | nil => rfl
  | cons first rest ih =>
    rw [mergeFields_cons, ih fun other member => apart other (List.mem_cons_of_mem _ member),
      (apart first List.mem_cons_self).get_overlay]

/-- Each field that is set is updated. -/
theorem get_mergeFields_of_mem (separate : fields.Pairwise Settable.Apart) {field : Settable ρ}
    (member : field ∈ fields) :
    field.get (mergeFields fields existing update) =
      field.merging.merge (field.get existing) (field.get update) := by
  induction fields generalizing existing with
  | nil => cases member
  | cons first rest ih =>
    obtain ⟨others, separate⟩ := List.pairwise_cons.mp separate
    rw [mergeFields_cons]
    rcases List.mem_cons.mp member with rfl | later
    · rw [get_mergeFields_of_apart fun other known => (others other known).symm,
        field.get_overlay_self]
    · rw [ih separate later, (others field later).get_overlay]

/-- An update is seen by the fields it sets only. -/
theorem mergeFields_congr {other : ρ} (same : ∀ field ∈ fields, field.get update = field.get other) :
    mergeFields fields existing update = mergeFields fields existing other := by
  induction fields generalizing existing with
  | nil => rfl
  | cons first rest ih =>
    have here : first.overlay update existing = first.overlay other existing := by
      rw [Settable.overlay, Settable.overlay, same first List.mem_cons_self]
    rw [mergeFields_cons, mergeFields_cons, here,
      ih fun field member => same field (List.mem_cons_of_mem _ member)]

/-- A field apart from those that are set may be set before or after them. -/
theorem overlay_mergeFields {field : Settable ρ} (apart : ∀ other ∈ fields, field.Apart other)
    (later : ρ) :
    field.overlay later (mergeFields fields existing update) =
      mergeFields fields (field.overlay later existing) update := by
  induction fields generalizing existing with
  | nil => rfl
  | cons first rest ih =>
    rw [mergeFields_cons, ih fun other member => apart other (List.mem_cons_of_mem _ member),
      (apart first List.mem_cons_self).overlay_comm, mergeFields_cons]

variable (separate : fields.Pairwise Settable.Apart) (lawful : ∀ field ∈ fields, field.Lawful)

include separate lawful

/-- **Updates of fields compose if those of each field do.** The induction is on the fields: the first
one is set by both updates before the others, which do not touch it. -/
theorem mergeFields_assoc (existing first second : ρ) :
    mergeFields fields (mergeFields fields existing first) second =
      mergeFields fields existing (mergeFields fields first second) := by
  induction fields generalizing existing with
  | nil => rfl
  | cons field rest ih =>
    have both : ∀ other ∈ field :: rest, other.get (mergeFields (field :: rest) first second) =
        other.merging.merge (other.get first) (other.get second) :=
      fun other member => get_mergeFields_of_mem separate member
    obtain ⟨others, apart⟩ := List.pairwise_cons.mp separate
    have front := lawful field List.mem_cons_self
    have composed := ih apart fun other member => lawful other (List.mem_cons_of_mem _ member)
    calc mergeFields (field :: rest) (mergeFields (field :: rest) existing first) second
        = mergeFields rest (mergeFields rest
            (field.overlay second (field.overlay first existing)) first) second := by
          rw [mergeFields_cons, mergeFields_cons, overlay_mergeFields others]
      _ = mergeFields rest (field.overlay (mergeFields (field :: rest) first second) existing)
            (mergeFields rest first second) := by
          rw [front.overlay_overlay (both field List.mem_cons_self), composed]
      _ = mergeFields (field :: rest) existing (mergeFields (field :: rest) first second) := by
          rw [mergeFields_cons field rest existing]
          refine mergeFields_congr fun other member => ?_
          rw [both other (List.mem_cons_of_mem _ member), get_mergeFields_of_mem apart member]

omit separate in
theorem mergeFields_self (existing : ρ) : mergeFields fields existing existing = existing := by
  induction fields with
  | nil => rfl
  | cons field rest ih =>
    rw [mergeFields_cons, (lawful field List.mem_cons_self).overlay_self,
      ih fun other member => lawful other (List.mem_cons_of_mem _ member)]

omit separate in
theorem mergeFields_unset (unset : unsetFields fields update = true) :
    mergeFields fields existing update = existing := by
  induction fields with
  | nil => rfl
  | cons field rest ih =>
    rw [unsetFields, List.all_cons, Bool.and_eq_true] at unset
    rw [mergeFields_cons, (lawful field List.mem_cons_self).overlay_unset unset.1,
      ih (fun other member => lawful other (List.mem_cons_of_mem _ member)) unset.2]

end Fields

/-! ### Types that are put together -/

/-- The ways in which types are updated: texts, truth values, whole numbers and lists unless they are
zero, dates, instants and roles as a whole, optional and boxed values as what they hold, and records by
some of their fields. -/
inductive Merge.Built : (α : Type) → [Merge α] → [Unset α] → Prop
  | string : Built String
  | bool : Built Bool
  | int32 : Built Int32
  | int64 : Built Int64
  | uint32 : Built UInt32
  | uint64 : Built UInt64
  | usize : Built USize
  | list (α : Type) : Built (List α)
  | date : Built Date
  | instant : Built Instant
  | role : Built Role
  | option {α : Type} [Merge α] [Unset α] : Built α → Built (Option α)
  | boxed {α : Type} [Merge α] [Unset α] : Built α → Built (Boxed α)
  | record {ρ : Type} [Merge ρ] [Unset ρ] (fields : List (Settable ρ)) :
      fields.Pairwise Settable.Apart →
      (∀ field ∈ fields, @Built field.Value field.merging field.unset) →
      (merge : ρ → ρ → ρ) = mergeFields fields → (isUnset : ρ → Bool) = unsetFields fields → Built ρ

/-- Types that are put together so have updates that compose. -/
theorem Merge.Built.lawful {α : Type} [Merge α] [Unset α] (built : Merge.Built α) :
    LawfulUnset α := by
  induction built with
  | string | bool | int32 | int64 | uint32 | uint64 | usize | list => exact .unlessZero _
  | date | instant | role => exact .replacing
  | option _ held => exact .option
  | boxed _ held => exact Boxed.lawful
  | record fields separate _ merges unsets lawful =>
    refine { merge_assoc := ?assoc, merge_self := ?self, merge_unset := ?unset }
    case assoc =>
      rw [merges]
      exact mergeFields_assoc separate lawful
    case self =>
      rw [merges]
      exact mergeFields_self lawful
    case unset =>
      rw [merges, unsets]
      exact fun _ _ => mergeFields_unset lawful

/-! ### Records -/

namespace Course

/-- Everything but the id, the lessons and the time of creation. -/
def settable : List (Settable Course) := [
  .of title fun value course => { course with title := value },
  .of description fun value course => { course with description := value },
  .of instructors fun value course => { course with instructors := value },
  .of moderators fun value course => { course with moderators := value },
  .of startDate fun value course => { course with startDate := value },
  .of endDate fun value course => { course with endDate := value },
  .of duration fun value course => { course with duration := value },
  .of enrollmentStudents fun value course => { course with enrollmentStudents := value },
  .of price fun value course => { course with price := value }]

instance : Unset Course := ⟨unsetFields settable⟩

theorem built : Merge.Built Course := by
  refine .record settable ?_ ?_ rfl rfl
  · simp [settable, Settable.Apart, Settable.of]
  · simp only [settable, List.forall_mem_cons]
    exact ⟨.string, .string, .list _, .list _, .option .date, .option .date, .uint32, .list _, .string,
      by simp⟩

end Course

namespace Lesson

/-- Title and description. -/
def settable : List (Settable Lesson) := [
  .of title fun value lesson => { lesson with title := value },
  .of description fun value lesson => { lesson with description := value }]

instance : Unset Lesson := ⟨unsetFields settable⟩

theorem built : Merge.Built Lesson := by
  refine .record settable ?_ ?_ rfl rfl
  · simp [settable, Settable.Apart, Settable.of]
  · simp only [settable, List.forall_mem_cons]
    exact ⟨.string, .string, by simp⟩

end Lesson

namespace Content

/-- Name, kind, address and duration. -/
def settable : List (Settable Content) := [
  .of name fun value content => { content with name := value },
  .of kind fun value content => { content with kind := value },
  .of url fun value content => { content with url := value },
  .of duration fun value content => { content with duration := value }]

instance : Unset Content := ⟨unsetFields settable⟩

theorem built : Merge.Built Content := by
  refine .record settable ?_ ?_ rfl rfl
  · simp [settable, Settable.Apart, Settable.of]
  · simp only [settable, List.forall_mem_cons]
    exact ⟨.string, .string, .string, .uint32, by simp⟩

end Content

namespace Bio

/-- Every field. -/
def settable : List (Settable Bio) := [
  .of address fun value bio => { bio with address := value },
  .of phone fun value bio => { bio with phone := value },
  .of postalCode fun value bio => { bio with postalCode := value }]

instance : Unset Bio := ⟨unsetFields settable⟩

theorem built : Merge.Built Bio := by
  refine .record settable ?_ ?_ rfl rfl
  · simp [settable, Settable.Apart, Settable.of]
  · simp only [settable, List.forall_mem_cons]
    exact ⟨.string, .string, .uint32, by simp⟩

end Bio

namespace User

/-- Everything but the name. -/
def settable : List (Settable User) := [
  .of email fun value user => { user with email := value },
  .of phone fun value user => { user with phone := value },
  .of role fun value user => { user with role := value },
  .of certificates fun value user => { user with certificates := value },
  .of enrolledCourses fun value user => { user with enrolledCourses := value },
  .of participatedExams fun value user => { user with participatedExams := value },
  .of bio fun value user => { user with bio := value }]

instance : Unset User := ⟨unsetFields settable⟩

theorem built : Merge.Built User := by
  refine .record settable ?_ ?_ rfl rfl
  · simp [settable, Settable.Apart, Settable.of]
  · simp only [settable, List.forall_mem_cons]
    exact ⟨.string, .string, .option .role, .list _, .list _, .list _, .option Bio.built, by simp⟩

end User

/-- **Partial updates compose.** For every type that is put together so, two updates in turn are the
update that the second makes of the first, an update made again changes nothing, and one that sets
nothing changes nothing; and courses, lessons, contents, users and the parts of a user are such types. -/
theorem partial_updates_compose :
    (∀ {α : Type} [Merge α] [Unset α], Merge.Built α →
      (∀ existing first second : α,
        merge (merge existing first) second = merge existing (merge first second)) ∧
      (∀ existing update : α, merge (merge existing update) update = merge existing update) ∧
      (∀ existing update : α, isUnset update = true → merge existing update = existing)) ∧
    Merge.Built Course ∧ Merge.Built Lesson ∧ Merge.Built Content ∧ Merge.Built User ∧
    Merge.Built Bio := by
  refine ⟨fun built => ?_, Course.built, Lesson.built, Content.built, User.built, Bio.built⟩
  have lawful := built.lawful
  exact ⟨lawful.merge_assoc, LawfulMerge.merge_again, lawful.merge_unset⟩

end Syllabus
