/-
**Partial updates.**

An update is a value of the same type as the one it changes, and what it leaves unset keeps the
existing value.

* `Merge` — a type whose values can be updated in part: `merge existing update`;
* `overlay` — a value with a zero replaces the existing one unless it is zero;
* optional values: none changes nothing, and a present value is merged into a present one.
-/

import Syllabus.Binary64.Basic
import Syllabus.Calendar.Instant

namespace Syllabus

/-- A type whose values can be updated in part. -/
class Merge (α : Type) where
  /-- The existing value with what the update sets. -/
  merge : α → α → α

export Merge (merge)

/-- A value with a zero replaces the existing one unless it is zero. -/
def overlay {α : Type} (isZero : α → Bool) (existing update : α) : α :=
  if isZero update then existing else update

/-- Values that a zero leaves unset. -/
@[reducible]
def Merge.unlessZero {α : Type} (isZero : α → Bool) : Merge α where
  merge := overlay isZero

/-- Values without a zero, which every update replaces. -/
@[reducible]
def Merge.replacing {α : Type} : Merge α where
  merge _ update := update

instance : Merge String := .unlessZero (·.isEmpty)
instance : Merge Bool := .unlessZero (!·)
instance : Merge Int32 := .unlessZero (· == 0)
instance : Merge Int64 := .unlessZero (· == 0)
instance : Merge UInt32 := .unlessZero (· == 0)
instance : Merge UInt64 := .unlessZero (· == 0)
instance : Merge USize := .unlessZero (· == 0)
instance : Merge Binary64 := .unlessZero (·.isZero)
instance {α : Type} : Merge (List α) := .unlessZero (·.isEmpty)
instance : Merge Date := .replacing
instance : Merge Instant := .replacing

/-- An update of none changes nothing; a present one is merged into a present value. -/
def mergeOption {α : Type} [Merge α] : Option α → Option α → Option α
  | existing, none => existing
  | none, some update => some update
  | some existing, some update => some (merge existing update)

instance {α : Type} [Merge α] : Merge (Option α) where
  merge := mergeOption

end Syllabus
