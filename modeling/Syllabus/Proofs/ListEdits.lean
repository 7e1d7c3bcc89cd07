/-
**Sequences of list edits.**

A field of a document that is unset or lists some ids is edited many times: what the list becomes, and
what the document counts.

* `ListEdit.edited`, `ListEdit.Changes` — what an edit makes of a list, and whether that is another one;
* `Document.Lists` — the ids that a field lists, none if it is unset;
* `ListEdit.alters_iff_changes`, `ListEdit.lists_applied`, `ListEdit.applied_eq` — the edit of such a
  document;
* **`ListEdit.lists_foldl_applied`** — the document after edits, one after another: the list is the edited
  one, each change was counted, and no other field is touched.
-/

import Syllabus.Proofs.FieldEdits
import Syllabus.Proofs.Listing

namespace Syllabus

/-- The field lists these ids; an unset one lists none. -/
def Document.Lists (field : String) (ids : List String) (document : Document) : Prop :=
  document.get? field = some (.array (ids.map .string)) ∨
    ids = [] ∧ (document.get? field = none ∨ document.get? field = some .null)

theorem Document.Lists.listed {document : Document} {field : String} {ids : List String}
    (lists : document.Lists field ids) :
    Document.listed (document.get? field) = some (ids.map .string) := by
  rcases lists with held | ⟨rfl, unset | null⟩ <;> simp [Document.listed, *]

theorem Document.lists_of_listed {document : Document} {field : String} {ids : List String}
    (listed : Document.listed (document.get? field) = some (ids.map .string)) :
    document.Lists field ids := by
  unfold Document.Lists
  unfold Document.listed at listed
  split at listed
  · simp_all
  · simp_all
  · simp_all
  · cases listed

namespace ListEdit

/-- What the edit makes of a list. -/
def edited (edit : ListEdit) (ids : List String) : List String :=
  edit.membership.edited edit.child ids

/-- The edit changes the list: it is an addition, or removes something. -/
def Changes (edit : ListEdit) (ids : List String) : Prop :=
  edit.membership = .push ∨ edit.child ∈ ids

instance (edit : ListEdit) (ids : List String) : Decidable (edit.Changes ids) :=
  inferInstanceAs (Decidable (_ ∨ _))

/-- How many of the edits change the list, when one is made after another. -/
def changes : List String → List ListEdit → Nat
  | _, [] => 0
  | ids, edit :: edits => (if edit.Changes ids then 1 else 0) + changes (edit.edited ids) edits

variable {field : String} {document : Document} {ids : List String} {held : Option Bson}

/-- On a list of ids an edit makes another value exactly if it changes the list. -/
theorem alters_iff_changes (listed : Document.listed held = some (ids.map .string)) (edit : ListEdit) :
    edit.Alters held ↔ edit.Changes ids := by
  obtain ⟨membership, child⟩ := edit
  cases membership with
  | push => simp [alters_push_iff, listed, Changes]
  | pull => simp [alters_pull_iff, Omits, listed, Changes]

theorem listed_next (listed : Document.listed held = some (ids.map .string)) (edit : ListEdit) :
    Document.listed (edit.next held) = some ((edit.edited ids).map .string) := by
  obtain ⟨membership, child⟩ := edit
  cases membership with
  | push => simp [listed_next_push, listed, edited, Membership.edited]
  | pull => simp [listed_next_pull, listed, edited, Membership.edited, Listing.filter_items]

/-- **The edit of a document with the list**: the list is set anew and the change counted, or there is
nothing to do. -/
theorem applied_eq (lists : document.Lists field ids) (edit : ListEdit) :
    applied field document edit = if edit.Changes ids then
      (document.insert field (.array ((edit.edited ids).map .string))).bumped else document := by
  have changes := alters_iff_changes lists.listed edit
  split
  · next changed =>
    obtain ⟨items, becomes, made⟩ := applied_of_alters (changes.mpr changed)
    have same := listed_next lists.listed edit
    rw [becomes] at same
    rw [made, Option.some.inj same]
  · next still => exact applied_of_not_alters (mt changes.mp still)

/-- As many edits make another value as change the list, and they leave the list edited. -/
theorem listed_nextAll (listed : Document.listed held = some (ids.map .string))
    (edits : List ListEdit) : alterations held edits = changes ids edits ∧
      Document.listed (nextAll edits held) =
        some ((edits.foldl (fun ids edit => edit.edited ids) ids).map .string) := by
  induction edits generalizing held ids with
  | nil => exact ⟨rfl, listed⟩
  | cons edit edits ih =>
    obtain ⟨counted, after⟩ := ih (listed_next listed edit)
    refine ⟨?_, after⟩
    rw [alterations, changes, counted]
    simp only [alters_iff_changes listed]

section Apart

variable (apart : field ≠ versionKey)

include apart

theorem lists_applied (lists : document.Lists field ids) (edit : ListEdit) :
    (applied field document edit).Lists field (edit.edited ids) := by
  refine Document.lists_of_listed ?_
  rw [get?_applied_self apart, listed_next lists.listed]

/-- **Edits of a list, one after another.** -/
theorem lists_foldl_applied (lists : document.Lists field ids) (edits : List ListEdit) :
    let last := edits.foldl (applied field) document
    last.Lists field (edits.foldl (fun ids edit => edit.edited ids) ids) ∧
      last.get? versionKey = (if changes ids edits = 0 then document.get? versionKey
        else some (.int64 (document.version + Int64.ofNat (changes ids edits)))) ∧
      ∀ other, other ≠ field ∧ other ≠ versionKey → last.get? other = document.get? other := by
  obtain ⟨becomes, counted, others⟩ := @foldl_applied document field apart edits
  obtain ⟨changed, listed⟩ := listed_nextAll lists.listed edits
  rw [changed] at counted
  exact ⟨Document.lists_of_listed (becomes ▸ listed), counted, others⟩

end Apart

end ListEdit

end Syllabus
