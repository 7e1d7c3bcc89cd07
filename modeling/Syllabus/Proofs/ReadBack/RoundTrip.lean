/-
**Records are read back from their texts and from their documents.**

* `LegibleCodec` — the text of a value decodes to the value;
* `Field.Legible` — a field decodes the same from the text of its value as from what is stored of
  it, so that what is known of documents is known of texts;
* **`Codec.ofText_text`** — the text of a value decodes to it, whatever its type;
* **`records_are_read_back`** — the records of all four types, from their text, from their document
  and from their document with key and version.
-/

import Syllabus.Proofs.ReadBack.Json
import Syllabus.Proofs.ReadBack.Record

namespace Syllabus

/-- The text of a value decodes to the value. -/
class LegibleCodec (α : Type) [Codec α] : Prop where
  isExact_json : ∀ value : α, (Codec.json value).IsExact
  decode_draft : ∀ value : α, Codec.decode (Codec.json value).draft = .ok value

export LegibleCodec (isExact_json decode_draft)

attribute [simp] decode_draft

/-- **The text of a value decodes to the value.** -/
theorem Codec.ofText_text {α : Type} [Codec α] [LegibleCodec α] (value : α) :
    Codec.ofText (Codec.text value) = .ok value := by
  rw [Codec.ofText, Codec.text, Draft.ofText_text (isExact_json value), decode_draft]

/-! ### Scalars -/

instance : LegibleCodec String where
  isExact_json _ := trivial
  decode_draft _ := rfl

/-- A date is the same string in a text and in a document. -/
instance : LegibleCodec Date where
  isExact_json _ := trivial
  decode_draft date := decode_stored date

instance : LegibleCodec Instant where
  isExact_json _ := trivial
  decode_draft instant := decode_stored instant

instance : LegibleCodec Role where
  isExact_json _ := trivial
  decode_draft role := decode_stored role

instance : LegibleCodec UInt32 where
  isExact_json value := by
    have bound := value.toNat_lt
    show (-9223372036854775808 : Int) ≤ value.toNat ∧ (value.toNat : Int) < 18446744073709551616
    omega
  decode_draft value := by
    have bound := value.toNat_lt
    have within : (0 : Int) ≤ value.toNat ∧ (value.toNat : Int) ≤ (UInt32.size : Int) - 1 := by
      simp only [UInt32.size]
      omega
    show (decodeInteger 0 (UInt32.size - 1) (.integer value.toNat)).map
      (fun value => value.toNat.toUInt32) = .ok value
    rw [decodeInteger, if_pos within]
    simp [Except.map]

/-! ### Lists and optional values -/

theorem Json.areExact_of_forall {items : List Json} (exact : ∀ item ∈ items, item.IsExact) :
    Json.AreExact items := by
  induction items with
  | nil => trivial
  | cons item items ih =>
    exact ⟨exact item List.mem_cons_self, ih fun other member =>
      exact other (List.mem_cons_of_mem _ member)⟩

theorem Json.membersExact_of_forall {members : List (String × Json)}
    (exact : ∀ member ∈ members, member.2.IsExact) : Json.MembersExact members := by
  induction members with
  | nil => trivial
  | cons member members ih =>
    exact ⟨exact member List.mem_cons_self, ih fun other among =>
      exact other (List.mem_cons_of_mem _ among)⟩

theorem Json.itemsDraft_eq_map (items : List Json) : Json.itemsDraft items = items.map Json.draft := by
  induction items with
  | nil => rfl
  | cons item items ih => rw [Json.itemsDraft, ih, List.map_cons]

theorem Json.membersDraft_eq_map (members : List (String × Json)) :
    Json.membersDraft members = members.map fun (key, value) => (some key, value.draft) := by
  induction members with
  | nil => rfl
  | cons member members ih => rw [Json.membersDraft, ih, List.map_cons]

instance {α : Type} [Codec α] [LegibleCodec α] : LegibleCodec (List α) where
  isExact_json values := Json.areExact_of_forall fun item member => by
    obtain ⟨value, -, rfl⟩ := List.mem_map.mp member
    exact isExact_json value
  decode_draft values := by
    have items : decodeItems (values.map fun value => (Codec.json value).draft) = .ok values := by
      induction values with
      | nil => rfl
      | cons value values ih => simp only [List.map_cons, decodeItems, decode_draft, ih]; rfl
    have written : (Codec.json values).draft =
        .array (values.map fun value => (Codec.json value).draft) .closed := by
      show Json.draft (.array (values.map Codec.json)) = _
      rw [Json.draft, Json.itemsDraft_eq_map, List.map_map]
      rfl
    simp only [written, Codec.decode, items, reduceCtorEq, if_false]

/-- A value that is not stored as null is not null in a text. -/
theorem Json.draft_ne_null {value : Json} (solid : value.stored.draft ≠ .null) :
    value.draft ≠ .null := by
  cases value with
  | null => exact absurd rfl solid
  | _ => exact Draft.noConfusion

instance {α : Type} [Codec α] [LegibleCodec α] [SolidCodec α] : LegibleCodec (Option α) where
  isExact_json
    | none => trivial
    | some value => isExact_json value
  decode_draft
    | none => rfl
    | some value => by
      have solid : (Codec.json value).draft ≠ .null := Json.draft_ne_null (draft_ne_null value)
      have read := decode_draft value
      have written : Codec.json (some value) = Codec.json value := rfl
      rw [written]
      generalize (Codec.json value).draft = draft at solid read
      cases draft with
      | null => exact absurd rfl solid
      | _ => simp only [Codec.decode] at read ⊢; rw [read]; rfl

/-! ### Types of records -/

namespace Field

variable {ρ α : Type}

/-- What is written for the field is exact, and decodes the same from a text as from a document. -/
def Legible (field : Field ρ) : Prop :=
  ∀ source value, field.json source = some value →
    value.IsExact ∧ field.decode value.draft = field.decode value.stored.draft

theorem legible_optional [Codec α] [LawfulCodec α] [LegibleCodec α] (key : String) (get : ρ → α)
    (set : α → ρ → ρ) : (optional key get set).Legible := by
  rintro source _ ⟨⟩
  refine ⟨isExact_json (get source), ?_⟩
  rw [decode_optional]
  show (Codec.decode (Codec.json (get source)).draft).map set = _
  rw [decode_draft]
  rfl

/-- The members that fields are written as in a text, as a decoder is handed them. -/
def textDrafts (fields : List (Field ρ)) (source : ρ) : List (Option String × Draft) :=
  fields.filterMap fun field =>
    (field.json source).map fun value => (some field.key, value.draft)

end Field

theorem membersDraft_fieldMembers {ρ : Type} [Fielded ρ] (source : ρ) :
    Json.membersDraft (fieldMembers source) = Field.textDrafts Fielded.fields source := by
  rw [Json.membersDraft_eq_map, fieldMembers, Field.textDrafts, List.map_filterMap]
  simp [Function.comp_def]

/-- **The members of a text decode as those of a document.** The induction is on the fields that are
still to come. -/
theorem decodeMembers_textDrafts {ρ : Type} {known fields : List (Field ρ)}
    (legible : ∀ field ∈ fields, field.Legible)
    (found : ∀ field ∈ fields, known.find? (·.key == field.key) = some field) (source : ρ) :
    ∀ (met : List String) (target : ρ),
      decodeMembers known met target (Field.textDrafts fields source) =
        decodeMembers known met target (Field.drafts fields source) := by
  induction fields with
  | nil => exact fun _ _ => rfl
  | cons field fields ih =>
    intro met target
    have next := ih (fun other member => legible other (List.mem_cons_of_mem _ member))
      (fun other member => found other (List.mem_cons_of_mem _ member))
    cases written : field.json source with
    | none => simpa [Field.textDrafts, Field.drafts, written] using next met target
    | some value =>
      have same := (legible field List.mem_cons_self source value written).2
      have text : Field.textDrafts (field :: fields) source =
          (some field.key, value.draft) :: Field.textDrafts fields source := by
        simp [Field.textDrafts, written]
      have document : Field.drafts (field :: fields) source =
          (some field.key, value.stored.draft) :: Field.drafts fields source := by
        simp [Field.drafts, written]
      rw [text, document, decodeMembers, decodeMembers, found field List.mem_cons_self]
      simp only [same, next]

/-- A type of records whose fields decode the same from texts as from documents. -/
class LegibleFielded (ρ : Type) [Fielded ρ] : Prop where
  legible : ∀ field ∈ (Fielded.fields : List (Field ρ)), field.Legible

/-- **A record is read back from its text.** -/
instance {ρ : Type} [Fielded ρ] [LawfulFielded ρ] [LegibleFielded ρ] : LegibleCodec ρ where
  isExact_json source := Json.membersExact_of_forall fun member among => by
    obtain ⟨field, listed, written⟩ := List.mem_filterMap.mp among
    obtain ⟨value, here, rfl⟩ := Option.map_eq_some_iff.mp written
    exact (LegibleFielded.legible field listed source value here).1
  decode_draft source := by
    have members := decodeMembers_textDrafts LegibleFielded.legible
      (fun field member => find?_key_of_mem LawfulFielded.distinct member) source []
      (Fielded.blank : ρ)
    have stored : decodeFielded (.object (Field.drafts Fielded.fields source) .lenient) =
        .ok source := by
      rw [← fieldsDraft_membersStored]
      exact decode_stored source
    show decodeFielded (.object (Json.membersDraft (fieldMembers source)) .closed) = _
    rw [membersDraft_fieldMembers, ← stored, decodeFielded, decodeFielded, members]
    rfl

instance : LegibleFielded Enrollment where
  legible := by simp [Fielded.fields, Field.legible_optional]

instance : LegibleFielded Bio where
  legible := by simp [Fielded.fields, Field.legible_optional]

instance : LegibleFielded Course where
  legible := by simp [Fielded.fields, Course.fields, Field.legible_optional]

instance : LegibleFielded Lesson where
  legible := by simp [Fielded.fields, Lesson.fields, Field.legible_optional]

instance : LegibleFielded Content where
  legible := by simp [Fielded.fields, Content.fields, Field.legible_optional]

instance : LegibleFielded User where
  legible := by simp [Fielded.fields, User.fields, Field.legible_optional]

instance : (kind : RecordKind) → LegibleFielded kind.Carrier
  | .course => inferInstanceAs (LegibleFielded Course)
  | .lesson => inferInstanceAs (LegibleFielded Lesson)
  | .content => inferInstanceAs (LegibleFielded Content)
  | .user => inferInstanceAs (LegibleFielded User)

/-- A record may be told in other ways than it is written: as a list of its first fields, with a date
that is signed and not padded. -/
example : Codec.ofText "[\"algebra\", \"\", \"\", [], [], \" +2024-1-5\"]" =
    .ok { Course.withId "algebra" with startDate := Date.of? 2024 1 5 } := by
  cbv

end Syllabus
