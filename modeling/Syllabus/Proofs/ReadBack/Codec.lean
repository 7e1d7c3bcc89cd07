/-
**Values are read back as they are stored.**

* `LawfulCodec` — what is stored for a value decodes to the value; `SolidCodec` — and is never null,
  so that an optional value can tell it from none;
* `Field.Faithful` — a field's stored value decodes, and `Field.transfer` is what it then does to the
  record that is read;
* **`decodeMembers_written`** — the fields of a record, read in order, transfer its values one after
  another, and whatever follows them is read next.
-/

import Syllabus.Codec.Fields
import Syllabus.Proofs.ReadBack.Calendar

namespace Syllabus

/-- What is stored for a value decodes to the value. -/
class LawfulCodec (α : Type) [Codec α] : Prop where
  decode_stored : ∀ value : α, Codec.decode (Codec.stored value).draft = .ok value

/-- What is stored for a value is never null. -/
class SolidCodec (α : Type) [Codec α] : Prop where
  draft_ne_null : ∀ value : α, (Codec.stored value).draft ≠ .null

export LawfulCodec (decode_stored)
export SolidCodec (draft_ne_null)

attribute [simp] decode_stored

/-! ### Scalars -/

instance : LawfulCodec String where
  decode_stored _ := rfl

instance : LawfulCodec Date where
  decode_stored date := by
    simp only [Codec.stored, Codec.json, Json.stored, Bson.draft, Codec.decode,
      String.toList_ofList, Date.read?_text]

instance : SolidCodec Date where
  draft_ne_null _ := Draft.noConfusion

instance : LawfulCodec Instant where
  decode_stored instant := by
    simp only [Codec.stored, Codec.json, Json.stored, Bson.draft, Codec.decode,
      String.toList_ofList, Instant.read?_text]

instance : SolidCodec Instant where
  draft_ne_null _ := Draft.noConfusion

/-- A number of 32 bits fits the 64 that it is stored in. -/
instance : LawfulCodec UInt32 where
  decode_stored value := by
    have bound := value.toNat_lt
    have kept : (Int64.ofInt value.toNat).toInt = value.toNat :=
      Int64.toInt_ofInt_of_le (by omega) (by omega)
    show (decodeInteger 0 (UInt32.size - 1) (.integer (Int64.ofInt value.toNat).toInt)).map
      (fun value => value.toNat.toUInt32) = .ok value
    have within : (0 : Int) ≤ value.toNat ∧ (value.toNat : Int) ≤ (UInt32.size : Int) - 1 := by
      simp only [UInt32.size]
      omega
    rw [kept, decodeInteger, if_pos within]
    simp [Except.map]

/-! ### Lists and optional values -/

theorem Json.itemsStored_eq_map (items : List Json) :
    Json.itemsStored items = items.map Json.stored := by
  induction items with
  | nil => rfl
  | cons item items ih => rw [Json.itemsStored, ih, List.map_cons]

theorem Bson.itemsDraft_eq_map (items : List Bson) :
    Bson.itemsDraft items = items.map Bson.draft := by
  induction items with
  | nil => rfl
  | cons item items ih => rw [Bson.itemsDraft, ih, List.map_cons]

instance {α : Type} [Codec α] [LawfulCodec α] : LawfulCodec (List α) where
  decode_stored values := by
    have items : decodeItems (values.map fun value => (Codec.stored value).draft) = .ok values := by
      induction values with
      | nil => rfl
      | cons value values ih => simp only [List.map_cons, decodeItems, decode_stored, ih]; rfl
    have written : (Codec.stored values).draft =
        .array (values.map fun value => (Codec.stored value).draft) .lenient := by
      show Bson.draft (.array (Json.itemsStored (values.map Codec.json))) = _
      rw [Bson.draft, Json.itemsStored_eq_map, Bson.itemsDraft_eq_map, List.map_map, List.map_map]
      rfl
    simp only [written, Codec.decode, items, reduceCtorEq, if_false]

instance {α : Type} [Codec α] [LawfulCodec α] [SolidCodec α] : LawfulCodec (Option α) where
  decode_stored
    | none => rfl
    | some value => by
      have solid := draft_ne_null value
      have read := decode_stored value
      have written : (Codec.stored (some value)).draft = (Codec.stored value).draft := rfl
      rw [written]
      generalize (Codec.stored value).draft = draft at solid read
      cases draft with
      | null => exact absurd rfl solid
      | _ => simp only [Codec.decode] at read ⊢; rw [read]; rfl

/-! ### Fields -/

namespace Field

variable {ρ α : Type}

/-- Every record has a value for the field that decodes once it is stored. -/
def Faithful (field : Field ρ) : Prop :=
  ∀ source, ∃ value change,
    field.json source = some value ∧ field.decode value.stored.draft = .ok change

/-- What the value that one record stores for the field does to another that reads it. -/
def transfer (field : Field ρ) (source target : ρ) : ρ :=
  match field.json source with
  | none => target
  | some value =>
    match field.decode value.stored.draft with
    | .ok change => change target
    | .error _ => target

theorem decode_optional [Codec α] [LawfulCodec α] (key : String) (get : ρ → α) (set : α → ρ → ρ)
    (source : ρ) :
    (optional key get set).decode (Codec.json (get source)).stored.draft =
      .ok (set (get source)) := by
  show (Codec.decode (Codec.stored (get source)).draft).map set = _
  rw [decode_stored]
  rfl

theorem faithful_optional [Codec α] [LawfulCodec α] (key : String) (get : ρ → α)
    (set : α → ρ → ρ) : (optional key get set).Faithful :=
  fun source => ⟨_, _, rfl, decode_optional key get set source⟩

@[simp]
theorem transfer_optional [Codec α] [LawfulCodec α] (key : String) (get : ρ → α)
    (set : α → ρ → ρ) (source target : ρ) :
    (optional key get set).transfer source target = set (get source) target := by
  have read := decode_optional key get set source
  simp only [optional] at read
  simp only [transfer, optional, read]

/-- The members that fields are written as, as a decoder is handed them. -/
def drafts (fields : List (Field ρ)) (source : ρ) : List (Option String × Draft) :=
  fields.filterMap fun field =>
    (field.json source).map fun value => (some field.key, value.stored.draft)

end Field

theorem Json.membersStored_eq_map (members : List (String × Json)) :
    Json.membersStored members = members.map fun (key, value) => (key, value.stored) := by
  induction members with
  | nil => rfl
  | cons member members ih => rw [Json.membersStored, ih, List.map_cons]

theorem Bson.fieldsDraft_eq_map (fields : List (String × Bson)) :
    Bson.fieldsDraft fields = fields.map fun (key, value) => (some key, value.draft) := by
  induction fields with
  | nil => rfl
  | cons field fields ih => rw [Bson.fieldsDraft, ih, List.map_cons]

theorem fieldsDraft_membersStored {ρ : Type} [Fielded ρ] (source : ρ) :
    Bson.fieldsDraft (Json.membersStored (fieldMembers source)) =
      Field.drafts Fielded.fields source := by
  rw [Bson.fieldsDraft_eq_map, Json.membersStored_eq_map, fieldMembers, Field.drafts, List.map_map,
    List.map_filterMap]
  simp [Function.comp_def]

/-- **The fields of a record are read in order, and each transfers its value.** The induction is on
the fields that are still to come; the keys met so far are those of the fields before. -/
theorem decodeMembers_written {ρ : Type} {known fields : List (Field ρ)}
    (faithful : ∀ field ∈ fields, field.Faithful) (distinct : (fields.map Field.key).Nodup)
    (found : ∀ field ∈ fields, known.find? (·.key == field.key) = some field) (source : ρ)
    (extras : List (Option String × Draft)) :
    ∀ (met : List String) (target : ρ), (∀ field ∈ fields, field.key ∉ met) →
      decodeMembers known met target (Field.drafts fields source ++ extras) =
        decodeMembers known ((fields.map Field.key).reverse ++ met)
          (fields.foldl (fun target field => field.transfer source target) target) extras := by
  induction fields with
  | nil => exact fun _ _ _ => rfl
  | cons field fields ih =>
    intro met target fresh
    obtain ⟨value, change, written, read⟩ := faithful field List.mem_cons_self source
    obtain ⟨first, distinct⟩ := List.nodup_cons.mp distinct
    have others : ∀ other ∈ fields, other.key ∉ field.key :: met := by
      intro other member repeated
      rcases List.mem_cons.mp repeated with same | before
      · exact first (same ▸ List.mem_map_of_mem member)
      · exact fresh other (List.mem_cons_of_mem _ member) before
    have transferred : field.transfer source target = change target := by
      simp only [Field.transfer, written, read]
    have unmet : met.contains field.key = false := by
      simpa using fresh field List.mem_cons_self
    have next := ih (fun other member => faithful other (List.mem_cons_of_mem _ member)) distinct
      (fun other member => found other (List.mem_cons_of_mem _ member)) (field.key :: met)
      (change target) others
    have drafts : Field.drafts (field :: fields) source ++ extras =
        (some field.key, value.stored.draft) :: (Field.drafts fields source ++ extras) := by
      simp [Field.drafts, written]
    rw [drafts, decodeMembers, found field List.mem_cons_self]
    simp only [unmet, Bool.false_eq_true, if_false, read]
    rw [next]
    simp [transferred]

/-- Members with unknown keys are passed over. -/
theorem decodeMembers_unknown {ρ : Type} {known : List (Field ρ)} {key : String} {value : Draft}
    (unknown : key ∉ known.map Field.key) (intact : value.intact = true) (met : List String)
    (record : ρ) (members : List (Option String × Draft)) :
    decodeMembers known met record ((some key, value) :: members) =
      decodeMembers known met record members := by
  have missing : known.find? (·.key == key) = none := by
    rw [List.find?_eq_none]
    intro field member same
    exact unknown (List.mem_map.mpr ⟨field, member, by simpa using same⟩)
  rw [decodeMembers, missing]
  simp [intact]

/-! ### Types of records -/

/-- A type of records whose fields restore a record from what is stored of it. -/
class LawfulFielded (ρ : Type) [Fielded ρ] : Prop where
  faithful : ∀ field ∈ (Fielded.fields : List (Field ρ)), field.Faithful
  distinct : ((Fielded.fields : List (Field ρ)).map Field.key).Nodup
  optional : ∀ field ∈ (Fielded.fields : List (Field ρ)), field.required = false
  restored : ∀ source : ρ,
    (Fielded.fields : List (Field ρ)).foldl (fun target field => field.transfer source target)
      Fielded.blank = source

theorem find?_key_of_mem {ρ : Type} {fields : List (Field ρ)}
    (distinct : (fields.map Field.key).Nodup) {field : Field ρ} (member : field ∈ fields) :
    fields.find? (·.key == field.key) = some field := by
  induction fields with
  | nil => cases member
  | cons first fields ih =>
    obtain ⟨fresh, distinct⟩ := List.nodup_cons.mp distinct
    rcases List.mem_cons.mp member with rfl | member
    · simp
    · have different : (first.key == field.key) = false := by
        rw [beq_eq_false_iff_ne]
        exact fun same => fresh (same ▸ List.mem_map_of_mem member)
      rw [List.find?_cons, different]
      exact ih distinct member

/-- **A record is read back from its stored fields**, whatever fields of other names follow. -/
theorem decode_document_append {ρ : Type} [Fielded ρ] [LawfulFielded ρ] (source : ρ)
    (extras : List (String × Bson))
    (unknown : ∀ extra ∈ extras, extra.1 ∉ (Fielded.fields : List (Field ρ)).map Field.key)
    (intact : ∀ extra ∈ extras, extra.2.draft.intact = true) :
    Codec.decode (Bson.document (Json.membersStored (fieldMembers source) ++ extras)).draft =
      (.ok source : Except Fault ρ) := by
  have rest : ∀ met, decodeMembers Fielded.fields met source (Bson.fieldsDraft extras) =
      .ok (met, source) := by
    intro met
    induction extras with
    | nil => rfl
    | cons extra extras ih =>
      rw [Bson.fieldsDraft_eq_map, List.map_cons,
        decodeMembers_unknown (unknown extra List.mem_cons_self)
          (intact extra List.mem_cons_self), ← Bson.fieldsDraft_eq_map]
      exact ih (fun other member => unknown other (List.mem_cons_of_mem _ member))
        (fun other member => intact other (List.mem_cons_of_mem _ member))
  have read := decodeMembers_written LawfulFielded.faithful LawfulFielded.distinct
    (fun field member => find?_key_of_mem LawfulFielded.distinct member) source
    (Bson.fieldsDraft extras) [] (Fielded.blank : ρ) (fun _ _ => List.not_mem_nil)
  rw [LawfulFielded.restored, rest] at read
  have written : (Bson.document (Json.membersStored (fieldMembers source) ++ extras)).draft =
      .object (Field.drafts Fielded.fields source ++ Bson.fieldsDraft extras) .lenient := by
    rw [Bson.draft, ← fieldsDraft_membersStored]
    simp [Bson.fieldsDraft_eq_map]
  have complete : ((Fielded.fields : List (Field ρ)).all fun field =>
      !field.required || (((Fielded.fields : List (Field ρ)).map Field.key).reverse ++ []).contains
        field.key) = true := by
    rw [List.all_eq_true]
    intro field member
    simp [LawfulFielded.optional field member]
  show decodeFielded (Bson.document _).draft = _
  rw [written, decodeFielded, read]
  simp only [reduceCtorEq, if_false, complete, if_true]

instance {ρ : Type} [Fielded ρ] [LawfulFielded ρ] : LawfulCodec ρ where
  decode_stored source := by
    have read := decode_document_append source [] (by simp) (by simp)
    rw [List.append_nil] at read
    exact read

instance {ρ : Type} [Fielded ρ] : SolidCodec ρ where
  draft_ne_null _ := Draft.noConfusion

end Syllabus
