/-
**Sequences of edits of any field.**

Texts are pushed onto a field of a document and pulled from it, one call after another. The field may hold
anything when the first call comes: an unset or null field counts as the empty list, a single value is no
list. What a call does depends on what the field holds by then.

* `ListEdit.next` — what an edit makes of a field; `ListEdit.Refused` — when it is refused;
  `ListEdit.Alters` — when it makes another value; `ListEdit.alterations` — how many edits of a sequence do;
* `ListEdit.outcome` — the three ways in which an edit ends;
* `ListEdit.Omits` — what a removal establishes, and only the addition of the same text undoes
  (`ListEdit.omits_nextAll`);
* `ListEdit.foldl_applied` — the document after a sequence of edits;
* `Store.Only.edit_cases`, `Store.OneApart.editedAll` — a call at the store, and the store after a sequence;
* **`edits_of_any_field`** — the calls of a sequence: which of them fail, what the field and the version
  are then, and that nothing else is touched.
-/

import Syllabus.Proofs.NoTrace
import Syllabus.Proofs.ServerEdit

namespace Syllabus

/-- What a field lists: an unset or null one nothing. A single value is no list. -/
def Document.listed : Option Bson → Option (List Bson)
  | none | some .null => some []
  | some (.array items) => some items
  | some _ => none

/-- The number that a version counts from: a whole number is its own, and all else counts as zero. -/
def Document.counted : Option Bson → Int
  | some (.int64 version) => version.toInt
  | some (.int32 version) => version.toInt
  | _ => 0

theorem Document.toInt_version (document : Document) :
    document.version.toInt = Document.counted (document.get? versionKey) := by
  unfold Document.version Document.counted versionNumber
  cases document.get? versionKey with
  | none => rfl
  | some value => cases value <;> first | rfl | exact Int32.toInt_toInt64 _

/-- An edit of a membership list, with the child that is added or removed. -/
structure ListEdit where
  membership : Membership
  child : String
  deriving DecidableEq

namespace ListEdit

/-- What an edit makes of a field: an addition puts its text at the end of what is listed, a removal takes
all texts equal to its own from a list. A single value stays, and what is unset stays so without an
addition. -/
def next : ListEdit → Option Bson → Option Bson
  | ⟨.push, child⟩, held =>
    match Document.listed held with
    | some items => some (.array (items ++ [.string child]))
    | none => held
  | ⟨.pull, child⟩, some (.array items) => some (.array (items.filter (!·.same (.string child))))
  | ⟨.pull, _⟩, held => held

/-- The edit is refused: the field holds a single value, and the edit is an addition or removes just this
value. -/
def Refused (edit : ListEdit) (held : Option Bson) : Prop :=
  Document.listed held = none ∧ (edit.membership = .push ∨ held = some (.string edit.child))

/-- The edit makes another value of the field. -/
def Alters (edit : ListEdit) (held : Option Bson) : Prop :=
  edit.next held ≠ held

variable {edit : ListEdit} {held : Option Bson} {child : String}

/-! ### One edit -/

theorem alters_push_iff : Alters ⟨.push, child⟩ held ↔ (Document.listed held).isSome = true := by
  unfold Alters next Document.listed
  cases held with
  | none => simp
  | some value => cases value <;> simp

/-- The field lists no text equal to this one. -/
def Omits (child : String) (held : Option Bson) : Prop :=
  ∀ items ∈ Document.listed held, ∀ item ∈ items, item.same (.string child) = false

instance (child : String) (held : Option Bson) : Decidable (Omits child held) :=
  inferInstanceAs (Decidable (∀ _ ∈ _, ∀ _ ∈ _, _))

theorem alters_pull_iff : Alters ⟨.pull, child⟩ held ↔ ¬ Omits child held := by
  unfold Alters next Omits Document.listed
  cases held with
  | none => simp
  | some value => cases value <;> simp

instance (edit : ListEdit) (held : Option Bson) : Decidable (edit.Alters held) :=
  match edit with
  | ⟨.push, _⟩ => decidable_of_iff _ alters_push_iff.symm
  | ⟨.pull, _⟩ => decidable_of_iff _ alters_pull_iff.symm

/-- **An edit ends in one of three ways**: it is refused, there is nothing to do, or the field gets
another list. -/
theorem outcome (edit : ListEdit) (held : Option Bson) :
    (edit.Refused held ∧ ¬ edit.Alters held ∧
      edit.membership.edit (.string edit.child) held = .notAnArray) ∨
    (¬ edit.Refused held ∧ ¬ edit.Alters held ∧
      edit.membership.edit (.string edit.child) held = .unchanged) ∨
    (¬ edit.Refused held ∧ edit.Alters held ∧ ∃ items, edit.next held = some (.array items) ∧
      edit.membership.edit (.string edit.child) held = .changed (.array items)) := by
  obtain ⟨membership, child⟩ := edit
  cases membership with
  | push =>
    rw [alters_push_iff]
    cases held with
    | none => simp [Refused, Document.listed, Membership.edit, next]
    | some value => cases value <;> simp [Refused, Document.listed, Membership.edit, next]
  | pull =>
    rw [alters_pull_iff, Classical.not_not]
    cases held with
    | none => simp [Refused, Omits, Document.listed, Membership.edit]
    | some value =>
      cases value with
      | array items =>
        have accepted : ¬ Refused ⟨.pull, child⟩ (some (.array items)) := by
          simp [Refused, Document.listed]
        have still : Omits child (some (.array items)) ↔
            (items.filter (!·.same (.string child))).length = items.length := by
          simp [Omits, Document.listed, List.length_filter_eq_length_iff]
        by_cases omits : Omits child (some (.array items))
        · exact .inr (.inl ⟨accepted, omits, if_pos (still.mp omits)⟩)
        · exact .inr (.inr ⟨accepted, omits, _, rfl, if_neg (mt still.mpr omits)⟩)
      | string text =>
        by_cases same : text = child <;>
          simp [Refused, Omits, Document.listed, Membership.edit, Bson.same, same]
      | _ => simp [Refused, Omits, Document.listed, Membership.edit, Bson.same]

theorem Refused.not_alters (refused : edit.Refused held) : ¬ edit.Alters held := by
  rcases edit.outcome held with ⟨_, still, _⟩ | ⟨accepted, _⟩ | ⟨accepted, _⟩
  · exact still
  · exact absurd refused accepted
  · exact absurd refused accepted

/-- How many of the edits make another value of the field, when one is made after another. -/
def alterations : Option Bson → List ListEdit → Nat
  | _, [] => 0
  | held, edit :: edits => (if edit.Alters held then 1 else 0) + alterations (edit.next held) edits

/-- An addition puts its text at the end of what is listed. -/
theorem listed_next_push : Document.listed (next ⟨.push, child⟩ held) =
    (Document.listed held).map (· ++ [.string child]) := by
  unfold next Document.listed
  cases held with
  | none => rfl
  | some value => cases value <;> rfl

/-- A removal takes all equal texts from what is listed. -/
theorem listed_next_pull : Document.listed (next ⟨.pull, child⟩ held) =
    (Document.listed held).map (·.filter (!·.same (.string child))) := by
  unfold next Document.listed
  cases held with
  | none => rfl
  | some value => cases value <;> rfl

/-- **After a removal its text is not listed.** -/
theorem omits_next_pull : Omits child (next ⟨.pull, child⟩ held) := by
  rw [Omits, listed_next_pull]
  simp

/-- **It stays so until the text is added.** -/
theorem Omits.next (omits : Omits child held) (apart : edit ≠ ⟨.push, child⟩) :
    Omits child (edit.next held) := by
  obtain ⟨membership, other⟩ := edit
  intro items member item among
  cases membership with
  | push =>
    rw [listed_next_push, Option.mem_def, Option.map_eq_some_iff] at member
    obtain ⟨before, listed, rfl⟩ := member
    rcases List.mem_append.mp among with old | new
    · exact omits before listed item old
    · cases List.mem_singleton.mp new
      have different : other ≠ child := fun same => apart (same ▸ rfl)
      simpa using different
  | pull =>
    rw [listed_next_pull, Option.mem_def, Option.map_eq_some_iff] at member
    obtain ⟨before, listed, rfl⟩ := member
    exact omits before listed item (List.mem_filter.mp among).1

/-- What a field becomes when one edit is made after another. -/
def nextAll (edits : List ListEdit) (held : Option Bson) : Option Bson :=
  edits.foldl (fun held edit => edit.next held) held

/-- **A removal after an equal one has nothing to do**, whatever comes between but the addition of its
text. -/
theorem omits_nextAll {before after : List ListEdit} (unadded : ⟨.push, child⟩ ∉ after) :
    Omits child (nextAll (before ++ ⟨.pull, child⟩ :: after) held) := by
  have kept : ∀ after : List ListEdit, ⟨.push, child⟩ ∉ after → ∀ held, Omits child held →
      Omits child (nextAll after held) := by
    intro after
    induction after with
    | nil => exact fun _ _ omits => omits
    | cons edit after ih =>
      intro unadded held omits
      rw [List.mem_cons, not_or] at unadded
      exact ih unadded.2 _ (omits.next (Ne.symm unadded.1))
  rw [nextAll, List.foldl_append]
  exact kept after unadded _ omits_next_pull

/-! ### The document -/

section Document

/-- The document after the edit, which leaves a field that is no list. -/
def applied (field : String) (document : Document) (edit : ListEdit) : Document :=
  (document.withMembership edit.membership field (.string edit.child)).getD document

variable {document : Document} {field : String}

theorem applied_of_not_alters (still : ¬ edit.Alters (document.get? field)) :
    applied field document edit = document := by
  unfold applied Document.withMembership
  rcases edit.outcome (document.get? field) with
    ⟨_, _, ended⟩ | ⟨_, _, ended⟩ | ⟨_, alters, _⟩
  · rw [ended]
    rfl
  · rw [ended]
    rfl
  · exact absurd alters still

theorem applied_of_alters (alters : edit.Alters (document.get? field)) :
    ∃ items, edit.next (document.get? field) = some (.array items) ∧
      applied field document edit = (document.insert field (.array items)).bumped := by
  unfold applied Document.withMembership
  rcases edit.outcome (document.get? field) with
    ⟨_, still, _⟩ | ⟨_, still, _⟩ | ⟨_, _, items, becomes, ended⟩
  · exact absurd alters still
  · exact absurd alters still
  · exact ⟨items, becomes, by rw [ended]; rfl⟩

/-- A document has no edit of the field exactly if this is refused. -/
theorem withMembership_eq_none_iff :
    document.withMembership edit.membership field (.string edit.child) = none ↔
      edit.Refused (document.get? field) := by
  unfold Document.withMembership
  rcases edit.outcome (document.get? field) with
    ⟨refused, _, ended⟩ | ⟨accepted, _, ended⟩ | ⟨accepted, _, items, _, ended⟩ <;> simp [*]

/-- An edit leaves every field but its own and the version. -/
theorem get?_applied_of_ne {other : String} (apart : other ≠ field ∧ other ≠ versionKey)
    (edit : ListEdit) : (applied field document edit).get? other = document.get? other := by
  by_cases alters : edit.Alters (document.get? field)
  · obtain ⟨items, _, made⟩ := applied_of_alters alters
    rw [made, Document.bumped, Document.get?_insert_of_ne apart.2, Document.get?_insert_of_ne apart.1]
  · rw [applied_of_not_alters alters]

/-- An edit of a list other than the key leaves the key. -/
theorem accepts_applied (unkeyed : field ≠ idKey) (edit : ListEdit) (id : String) :
    (Filter.byId id).accepts (applied field document edit) = (Filter.byId id).accepts document := by
  have key := @get?_applied_of_ne document field idKey ⟨unkeyed.symm, by decide⟩ edit
  simp only [Filter.accepts, Filter.byId, List.all_cons, List.all_nil, key]

variable (apart : field ≠ versionKey)

include apart

/-- The field becomes what the edit makes of it. -/
theorem get?_applied_self (edit : ListEdit) :
    (applied field document edit).get? field = edit.next (document.get? field) := by
  by_cases alters : edit.Alters (document.get? field)
  · obtain ⟨items, becomes, made⟩ := applied_of_alters alters
    rw [made, becomes, Document.bumped, Document.get?_insert_of_ne apart, Document.get?_insert_self]
  · rw [applied_of_not_alters alters]
    exact (Classical.not_not.mp alters).symm

/-- What is listed stays a list. -/
theorem get?_applied_of_array {items : List Bson} (held : document.get? field = some (.array items))
    (edit : ListEdit) : ∃ items, (applied field document edit).get? field = some (.array items) := by
  rw [get?_applied_self apart, held]
  obtain ⟨membership, child⟩ := edit
  cases membership <;> exact ⟨_, rfl⟩

/-- An edit that makes another value counts as a change. -/
theorem get?_version_applied (edit : ListEdit) :
    (applied field document edit).get? versionKey =
      if edit.Alters (document.get? field) then some (.int64 (document.version + 1))
      else document.get? versionKey := by
  split
  · next alters =>
    obtain ⟨items, _, made⟩ := applied_of_alters alters
    rw [made, Document.bumped, Document.get?_insert_self, Document.version, Document.version,
      Document.get?_insert_of_ne apart.symm]
  · next still => rw [applied_of_not_alters still]

theorem counts_applied (counts : document.CountsVersion) (edit : ListEdit) :
    (applied field document edit).CountsVersion := by
  unfold Document.CountsVersion at counts ⊢
  rw [get?_version_applied apart]
  by_cases alters : edit.Alters (document.get? field)
  · simp only [alters, if_true]
  · simp only [alters, if_false]
    exact counts

theorem counts_foldl_applied (counts : document.CountsVersion) (edits : List ListEdit) :
    (edits.foldl (applied field) document).CountsVersion := by
  induction edits generalizing document with
  | nil => exact counts
  | cons edit edits ih => exact ih (counts_applied apart counts edit)

/-- **Edits, one after another.** -/
theorem foldl_applied (edits : List ListEdit) :
    let last := edits.foldl (applied field) document
    let changes := alterations (document.get? field) edits
    last.get? field = nextAll edits (document.get? field) ∧
      last.get? versionKey = (if changes = 0 then document.get? versionKey
        else some (.int64 (document.version + Int64.ofNat changes))) ∧
      ∀ other, other ≠ field ∧ other ≠ versionKey → last.get? other = document.get? other := by
  induction edits generalizing document with
  | nil => exact ⟨rfl, rfl, fun _ _ => rfl⟩
  | cons edit edits ih =>
    obtain ⟨becomes, counted, others⟩ := @ih (applied field document edit)
    have here : (applied field document edit).get? field = edit.next (document.get? field) :=
      get?_applied_self apart edit
    have version : (applied field document edit).get? versionKey = _ :=
      get?_version_applied apart edit
    rw [here] at becomes counted
    refine ⟨becomes, ?_, fun other different =>
      (others other different).trans (get?_applied_of_ne different edit)⟩
    rw [List.foldl_cons, counted, alterations]
    by_cases alters : edit.Alters (document.get? field)
    · rw [if_pos alters] at version
      have number : (applied field document edit).version = document.version + 1 := by
        rw [Document.version, version]
        rfl
      have positive : 1 + alterations (edit.next (document.get? field)) edits ≠ 0 := by omega
      rw [if_pos alters, version, number, if_neg positive, Int64.ofNat_add, ← Int64.add_assoc]
      split
      · next none =>
        rw [none]
        exact congrArg (some ∘ Bson.int64) (Int64.add_zero _).symm
      · rfl
    · rw [if_neg alters, applied_of_not_alters alters, Nat.zero_add]

end Document

end ListEdit

/-! ### The store -/

namespace Store

/-- The store after edits of one field, each called when the one before has returned. -/
def editedAll (store : Store) (ns : Namespace) (id field : String) (edits : List ListEdit) : Store :=
  edits.foldl (fun store edit =>
    (store.editMembership ns id edit.membership field (.string edit.child)).2) store

variable {store start : Store} {ns : Namespace} {id field : String} {document other : Document}

/-- **An edit of the one document with the key** is refused and leaves the store, or puts the edited
document in its place. -/
theorem Only.edit_cases (only : store.Only ns id document) (field : String) (edit : ListEdit) :
    (edit.Refused (document.get? field) ∧
      store.editMembership ns id edit.membership field (.string edit.child) =
        (.error (.notAnArray ns id field), store)) ∨
    (¬ edit.Refused (document.get? field) ∧
      store.editMembership ns id edit.membership field (.string edit.child) = (.ok (),
        store.update ns (changeFirst (.byId id) fun _ => edit.applied field document))) := by
  rw [only.editMembership]
  cases made : document.withMembership edit.membership field (.string edit.child) with
  | none => exact .inl ⟨ListEdit.withMembership_eq_none_iff.mp made, rfl⟩
  | some edited =>
    refine .inr ⟨fun refused => ?_, ?_⟩
    · cases made.symm.trans (ListEdit.withMembership_eq_none_iff.mpr refused)
    · rw [ListEdit.applied, made, Option.getD_some]

/-- Refused or not, the edited document is in its place then. -/
theorem Only.snd_editMembership (only : store.Only ns id document) (field : String)
    (edit : ListEdit) :
    (store.editMembership ns id edit.membership field (.string edit.child)).2 =
      store.update ns (changeFirst (.byId id) fun _ => edit.applied field document) := by
  rcases only.edit_cases field edit with ⟨refused, replied⟩ | ⟨_, replied⟩
  · rw [replied, ListEdit.applied_of_not_alters refused.not_alters, only.update_self]
  · rw [replied]

/-- An edit leaves the names of the namespaces. -/
theorem namespaces_editMembership (membership : Membership) (element : Bson) :
    (store.editMembership ns id membership field element).2.namespaces = store.namespaces := by
  refine @namespaces_perform_of_not_receives store ⟨0⟩
    (.editMembership ns id membership field element) fun other receives => ?_
  obtain ⟨_, _, same, _⟩ := receives
  cases same

/-- **Edits, one after another, go to the one document with the key.** -/
theorem OneApart.editedAll (unkeyed : field ≠ idKey) (apart : start.OneApart store ns id document other)
    (edits : List ListEdit) : start.OneApart (store.editedAll ns id field edits) ns id document
      (edits.foldl (ListEdit.applied field) other) ∧
    (store.editedAll ns id field edits).namespaces = store.namespaces := by
  induction edits generalizing store other with
  | nil => exact ⟨apart, rfl⟩
  | cons edit edits ih =>
    have answers := (ListEdit.accepts_applied unkeyed edit id).trans apart.answers
    have edited := apart.only.snd_editMembership field edit
    obtain ⟨after, names⟩ := ih (edited ▸ apart.update answers)
    exact ⟨after, names.trans (namespaces_editMembership ..)⟩

end Store

/-- **Edits of any field.** A store has one document that answers to a key, and nobody else does. Texts are
added to a field of it and removed, one call after another; the field is any but key and version, and may
hold anything at first. After any sequence of calls the field holds what the edits make of it in turn, and
the version has grown by the number of those that made another value. No other field, document or
namespace is touched. The next call is refused exactly if the field holds a single value by then and the
call is an addition, or removes just this value; it leaves the store then, and also if it is a removal that
was called before, and its text was not added since. -/
theorem edits_of_any_field {start : Store} {ns : Namespace} {id field : String} {document : Document}
    (plain : field ≠ idKey ∧ field ≠ versionKey) (only : start.Only ns id document)
    (edits : List ListEdit) :
    let store := start.editedAll ns id field edits
    let held := ListEdit.nextAll edits (document.get? field)
    let changes := ListEdit.alterations (document.get? field) edits
    let before := Document.counted (document.get? versionKey)
    ∃ last, start.OneApart store ns id document last ∧ store.namespaces = start.namespaces ∧
      last.get? field = held ∧
      (changes = 0 → last.get? versionKey = document.get? versionKey) ∧
      (0 < changes → before + changes ≤ Int64.maxValue.toInt → ∃ version : Int64,
        last.get? versionKey = some (.int64 version) ∧ version.toInt = before + changes) ∧
      (∀ other, other ≠ field ∧ other ≠ versionKey → last.get? other = document.get? other) ∧
      ∀ edit : ListEdit,
        let call := store.editMembership ns id edit.membership field (.string edit.child)
        (call.1 = .error (.notAnArray ns id field) ↔ edit.Refused held) ∧
        (call.1 = .ok () ↔ ¬ edit.Refused held) ∧
        (edit.Refused held → call.2 = store) ∧
        (∀ earlier later, edits = earlier ++ edit :: later → edit.membership = .pull →
          ⟨.push, edit.child⟩ ∉ later → call.2 = store) := by
  intro store held changes before
  obtain ⟨becomes, counted, others⟩ := @ListEdit.foldl_applied document field plain.2 edits
  obtain ⟨apart, names⟩ := (Store.OneApart.of_only only).editedAll plain.1 edits
  have number : document.version.toInt = before := document.toInt_version
  refine ⟨_, apart, names, becomes, fun none => ?same, fun positive fits => ?counted, others,
    fun edit => ?call⟩
  case same => rw [counted, if_pos none]
  case counted =>
    refine ⟨document.version + Int64.ofNat changes, counted.trans (if_neg (by omega)), ?_⟩
    rw [toInt_add_ofNat (number ▸ fits), number]
  case call =>
    intro call
    have ends := apart.only.edit_cases field edit
    have leaves : ¬ edit.Alters held → call.2 = store := by
      intro still
      have replaced := apart.only.snd_editMembership field edit
      rw [ListEdit.applied_of_not_alters (becomes ▸ still), apart.only.update_self] at replaced
      exact replaced
    rw [becomes] at ends
    refine ⟨?_, ?_, fun refused => leaves refused.not_alters,
      fun earlier later parts removes unadded => leaves ?_⟩
    · rcases ends with ⟨refused, replied⟩ | ⟨accepted, replied⟩
      · exact iff_of_true (congrArg Prod.fst replied) refused
      · refine iff_of_false (fun failed => ?_) accepted
        cases (congrArg Prod.fst replied).symm.trans failed
    · rcases ends with ⟨refused, replied⟩ | ⟨accepted, replied⟩
      · refine iff_of_false (fun succeeded => ?_) (not_not_intro refused)
        cases (congrArg Prod.fst replied).symm.trans succeeded
      · exact iff_of_true (congrArg Prod.fst replied) accepted
    · obtain ⟨membership, child⟩ := edit
      cases removes
      rw [ListEdit.alters_pull_iff, Classical.not_not]
      show ListEdit.Omits child (ListEdit.nextAll edits (document.get? field))
      rw [parts]
      exact ListEdit.omits_nextAll unadded

/-- A course whose lessons are null. -/
def Document.nullLessons : Document :=
  [(idKey, .string "algebra"), ("lessons", .null), (versionKey, .int32 3), ("title", .string "Algebra")]

/-- A store with this course, behind another document. -/
def Store.nullLessons : Store :=
  ⟨[(⟨"school", "courses"⟩, [[(idKey, .int32 1)], Document.nullLessons])]⟩

/-- A removal without effect, three additions, and a removal of two of them. -/
def ListEdit.tidying : List ListEdit :=
  [⟨.pull, "maps"⟩, ⟨.push, "sets"⟩, ⟨.push, "maps"⟩, ⟨.push, "sets"⟩, ⟨.pull, "sets"⟩]

/-- The course lists the one lesson that was not removed, after four changes, and a second removal has
nothing to do. -/
theorem edits_of_any_field_of_tidying :
    let ns : Namespace := ⟨"school", "courses"⟩
    let store := Store.nullLessons.editedAll ns "algebra" "lessons" ListEdit.tidying
    ∃ last, Store.nullLessons.OneApart store ns "algebra" Document.nullLessons last ∧
      last.get? "lessons" = some (.array [.string "maps"]) ∧
      (∃ version : Int64, last.get? versionKey = some (.int64 version) ∧ version.toInt = 7) ∧
      last.get? "title" = some (.string "Algebra") ∧
      (store.editMembership ns "algebra" .pull "lessons" (.string "sets")).2 = store := by
  intro ns store
  have plain : "lessons" ≠ idKey ∧ "lessons" ≠ versionKey := by decide
  have only : Store.nullLessons.Only ns "algebra" Document.nullLessons :=
    ⟨[[(idKey, .int32 1)]], [], by simp [Strangers]; rfl, by simp [Strangers], rfl, rfl⟩
  obtain ⟨last, apart, _, held, _, counted, others, calls⟩ :=
    edits_of_any_field plain only ListEdit.tidying
  refine ⟨last, apart, held.trans (by rfl), counted (by decide) (by decide),
    others "title" (by decide), ?_⟩
  exact (calls ⟨.pull, "sets"⟩).2.2.2 (ListEdit.tidying.take 4) [] rfl rfl (by simp)

end Syllabus
