/-
**Documents are read back after an edit.**

A document that decodes need not be one that a record is written as: its fields may come in another
order, be missing, or be fields that no record has. When one field of it is set, the record that it
stands for changes as the field alone would have it.

* `Field.Apart` — a field that can be read and set without regard to the others;
* `Record.ofDocument_insert`, `Record.ofDocument_insert_unknown` — a document with one field set;
* `decodeItems_cons_eq_ok` — a list is decoded item by item;
* `Listing.items`, `Listing.StoresTexts` — what is stored of a membership list, and that it is texts;
* `Listing.withMembership_push`, `Listing.withMembership_pull`, **`Listing.decodes_of_withMembership`** —
  the edit of a document is one of the record.
-/

import Syllabus.Proofs.Listing

namespace Syllabus

/-! ### Setting one field -/

/-- What values read for the field do to a record neither depends on what `set` sets nor changes what
`get` gets. -/
def Field.Ignores {ρ α : Type} (get : ρ → α) (set : α → ρ → ρ) (field : Field ρ) : Prop :=
  ∀ draft change, field.decode draft = .ok change → ∀ record, get (change record) = get record ∧
    ∀ value, change (set value record) = set value (change record)

/-- The field is one of those known, the others ignore it, and setting it makes up for any value that
it had. -/
structure Field.Apart {ρ α : Type} [Codec α] (known : List (Field ρ)) (key : String) (get : ρ → α)
    (set : α → ρ → ρ) : Prop where
  found : known.find? (·.key == key) = some (.optional key get set)
  others : ∀ field ∈ known, field.key ≠ key → field.Ignores get set
  get_set : ∀ value record, get (set value record) = value
  set_set : ∀ first second record, set second (set first record) = set second record

section Members

variable {ρ α : Type} [Codec α] {known : List (Field ρ)} {key : String} {get : ρ → α}
  {set : α → ρ → ρ}

/-- A known field is found under its own key. -/
theorem mem_of_find?_key {field : Field ρ} {name : String}
    (found : known.find? (·.key == name) = some field) : field ∈ known ∧ field.key = name :=
  ⟨List.mem_of_find?_eq_some found, by simpa using List.find?_some found⟩

theorem decodeMembers_known {field : Field ρ} {name : String} {draft : Draft} {change : ρ → ρ}
    {met : List String} (found : known.find? (·.key == name) = some field) (unmet : name ∉ met)
    (decoded : field.decode draft = .ok change) (record : ρ)
    (members : List (Option String × Draft)) :
    decodeMembers known met record ((some name, draft) :: members) =
      decodeMembers known (name :: met) (change record) members := by
  rw [decodeMembers, found]
  simp only [decoded]
  rw [if_neg (by simpa using unmet)]

/-- **A member that could be read** was passed over as unknown, or read for its field. -/
theorem decodeMembers_cons_eq_ok {name : String} {draft : Draft}
    {members : List (Option String × Draft)} {met met' : List String} {record result : ρ}
    (read : decodeMembers known met record ((some name, draft) :: members) = .ok (met', result)) :
    (name ∉ known.map Field.key ∧ draft.intact = true ∧
      decodeMembers known met record members = .ok (met', result)) ∨
    ∃ field change, known.find? (·.key == name) = some field ∧ name ∉ met ∧
      field.decode draft = .ok change ∧
      decodeMembers known (name :: met) (change record) members = .ok (met', result) := by
  rw [decodeMembers] at read
  split at read
  · next missing =>
    split at read
    · next intact =>
      refine .inl ⟨?_, intact, read⟩
      simpa using List.find?_eq_none.mp missing
    · cases read
  · next field found =>
    split at read
    · cases read
    next unmet =>
    split at read
    · cases read
    next change decoded => exact .inr ⟨field, change, found, by simpa using unmet, decoded, read⟩

/-- What is read for a field of this kind sets it. -/
theorem decode_optional_eq_ok {draft : Draft} {change : ρ → ρ}
    (read : (Field.optional key get set).decode draft = .ok change) :
    ∃ value, Codec.decode draft = .ok value ∧ change = set value := by
  change (Codec.decode draft).map set = .ok change at read
  cases decoded : (Codec.decode draft : Except Fault α) with
  | error fault =>
    rw [decoded] at read
    cases read
  | ok value =>
    rw [decoded] at read
    exact ⟨value, rfl, (Except.ok.inj read).symm⟩

omit [Codec α] in
theorem Field.ignores_optional {β : Type} [Codec β] {name : String} {get' : ρ → β}
    {set' : β → ρ → ρ} (keeps : ∀ other record, get (set' other record) = get record)
    (commutes : ∀ other value record,
      set' other (set value record) = set value (set' other record)) :
    (Field.optional name get' set').Ignores get set := by
  intro draft change read record
  obtain ⟨other, _, rfl⟩ := decode_optional_eq_ok read
  exact ⟨keeps other record, fun value => commutes other value record⟩

namespace Field.Apart

variable (apart : Field.Apart known key get set)

include apart

/-- Once the field was met, it may be set before or after the members that are left. -/
theorem decodeMembers_set (value : α) {document : Document} :
    ∀ {met met' : List String} {record result : ρ}, key ∈ met →
      decodeMembers known met record (Bson.fieldsDraft document) = .ok (met', result) →
      decodeMembers known met (set value record) (Bson.fieldsDraft document) =
          .ok (met', set value result) ∧
        get result = get record := by
  induction document with
  | nil =>
    intro met met' record result _ read
    cases read
    exact ⟨rfl, rfl⟩
  | cons field document ih =>
    intro met met' record result seen read
    rcases decodeMembers_cons_eq_ok read with
      ⟨unknown, intact, rest⟩ | ⟨field, change, found, unmet, decoded, rest⟩
    · rw [Bson.fieldsDraft, decodeMembers_unknown unknown intact]
      exact ih seen rest
    · obtain ⟨member, named⟩ := mem_of_find?_key found
      have other : field.key ≠ key := fun same => unmet (named ▸ same ▸ seen)
      obtain ⟨after, same⟩ := ih (List.mem_cons_of_mem _ seen) rest
      obtain ⟨kept, commutes⟩ := apart.others field member other _ change decoded record
      rw [Bson.fieldsDraft, decodeMembers_known found unmet decoded, commutes]
      exact ⟨after, same.trans kept⟩

/-- Members are read as before when one of them is set, but for its value. -/
theorem decodeMembers_insert {stored : Bson} {value : α}
    (reads : Codec.decode stored.draft = .ok value) {document : Document} :
    ∀ {met met' : List String} {record result : ρ}, key ∉ met →
      decodeMembers known met record (Bson.fieldsDraft document) = .ok (met', result) →
      ∃ met'', decodeMembers known met record (Bson.fieldsDraft (document.insert key stored)) =
        .ok (met'', set value result) := by
  have sets : (Field.optional key get set).decode stored.draft = .ok (set value) := by
    show (Codec.decode stored.draft).map set = _
    rw [reads]
    rfl
  induction document with
  | nil =>
    intro met met' record result fresh read
    cases read
    exact ⟨key :: met, decodeMembers_known apart.found fresh sets record []⟩
  | cons field document ih =>
    intro met met' record result fresh read
    obtain ⟨name, old⟩ := field
    by_cases here : name = key
    · subst here
      rw [Document.insert, if_pos rfl, Bson.fieldsDraft,
        decodeMembers_known apart.found fresh sets]
      rcases decodeMembers_cons_eq_ok read with
        ⟨unknown, _⟩ | ⟨field, change, found, _, decoded, rest⟩
      · obtain ⟨member, named⟩ := mem_of_find?_key apart.found
        exact absurd (named ▸ List.mem_map_of_mem member) unknown
      · cases apart.found.symm.trans found
        obtain ⟨first, _, rfl⟩ := decode_optional_eq_ok decoded
        rw [← apart.set_set first value record]
        exact ⟨met', (apart.decodeMembers_set value List.mem_cons_self rest).1⟩
    · rw [Document.insert, if_neg here, Bson.fieldsDraft]
      rcases decodeMembers_cons_eq_ok read with
        ⟨unknown, intact, rest⟩ | ⟨field, change, found, unmet, decoded, rest⟩
      · rw [decodeMembers_unknown unknown intact]
        exact ih fresh rest
      · rw [decodeMembers_known found unmet decoded]
        exact ih (by simp [fresh, Ne.symm here]) rest

/-- What the record has in the field is what was read for it, or what it had before. -/
theorem get_of_decodeMembers {document : Document} :
    ∀ {met met' : List String} {record result : ρ},
      decodeMembers known met record (Bson.fieldsDraft document) = .ok (met', result) →
      match document.get? key with
      | none => get result = get record
      | some stored => Codec.decode stored.draft = .ok (get result) := by
  induction document with
  | nil =>
    intro met met' record result read
    cases read
    rfl
  | cons field document ih =>
    intro met met' record result read
    obtain ⟨name, stored⟩ := field
    by_cases here : name = key
    · subst here
      simp only [Document.get?, if_true]
      rcases decodeMembers_cons_eq_ok read with
        ⟨unknown, _⟩ | ⟨field, change, found, _, decoded, rest⟩
      · obtain ⟨member, named⟩ := mem_of_find?_key apart.found
        exact absurd (named ▸ List.mem_map_of_mem member) unknown
      · cases apart.found.symm.trans found
        obtain ⟨value, reads, rfl⟩ := decode_optional_eq_ok decoded
        rw [(apart.decodeMembers_set value List.mem_cons_self rest).2, apart.get_set, reads]
    · simp only [Document.get?, here, if_false]
      rcases decodeMembers_cons_eq_ok read with
        ⟨_, _, rest⟩ | ⟨field, change, found, _, decoded, rest⟩
      · exact ih rest
      · obtain ⟨member, named⟩ := mem_of_find?_key found
        have same := (apart.others field member (named ▸ here) _ change decoded record).1
        have read := ih rest
        rwa [same] at read

end Field.Apart

/-- A member that no field knows may be set at will. -/
theorem decodeMembers_insert_unknown {stored : Bson} (unknown : key ∉ known.map Field.key)
    (intact : stored.draft.intact = true) {document : Document} :
    ∀ {met met' : List String} {record result : ρ},
      decodeMembers known met record (Bson.fieldsDraft document) = .ok (met', result) →
      decodeMembers known met record (Bson.fieldsDraft (document.insert key stored)) =
        .ok (met', result) := by
  induction document with
  | nil =>
    intro met met' record result read
    rw [Document.insert, Bson.fieldsDraft, decodeMembers_unknown unknown intact]
    exact read
  | cons field document ih =>
    intro met met' record result read
    obtain ⟨name, old⟩ := field
    rcases decodeMembers_cons_eq_ok read with
      ⟨foreign, passed, rest⟩ | ⟨field, change, found, unmet, decoded, rest⟩
    · by_cases here : name = key
      · rw [Document.insert, if_pos here, Bson.fieldsDraft, decodeMembers_unknown foreign intact]
        exact rest
      · rw [Document.insert, if_neg here, Bson.fieldsDraft, decodeMembers_unknown foreign passed]
        exact ih rest
    · obtain ⟨member, named⟩ := mem_of_find?_key found
      have other : name ≠ key := fun same =>
        unknown (same ▸ named ▸ List.mem_map_of_mem member)
      rw [Document.insert, if_neg other, Bson.fieldsDraft, decodeMembers_known found unmet decoded]
      exact ih rest

end Members

/-! ### Documents of records -/

namespace Record

variable {ρ α : Type} [Record ρ] [LawfulRecord ρ] [Codec α] {document : Document} {record : ρ}
  {key : String} {stored : Bson}

/-- A document decodes if its members do, since no field has to be there. -/
theorem ofDocument_eq_ok_iff : (ofDocument document : Except Fault ρ) = .ok record ↔
    ∃ met, decodeMembers Fielded.fields [] (Fielded.blank : ρ) (Bson.fieldsDraft document) =
      .ok (met, record) := by
  have complete : ∀ met : List String, ((Fielded.fields : List (Field ρ)).all fun field =>
      !field.required || met.contains field.key) = true := by
    intro met
    rw [List.all_eq_true]
    intro field member
    simp [LawfulFielded.optional field member]
  show decodeFielded (.object (Bson.fieldsDraft document) .lenient) = _ ↔ _
  rw [decodeFielded]
  constructor
  · intro read
    split at read
    · cases read
    next met result members =>
    simp only [reduceCtorEq, if_false, complete, if_true, Except.ok.injEq] at read
    exact ⟨met, read ▸ members⟩
  · rintro ⟨met, members⟩
    simp only [members, reduceCtorEq, if_false, complete, if_true]

theorem ofDocument_insert {get : ρ → α} {set : α → ρ → ρ}
    (apart : Field.Apart Fielded.fields key get set) {value : α}
    (reads : Codec.decode stored.draft = .ok value)
    (decodes : (ofDocument document : Except Fault ρ) = .ok record) :
    (ofDocument (document.insert key stored) : Except Fault ρ) = .ok (set value record) := by
  obtain ⟨met, members⟩ := ofDocument_eq_ok_iff.mp decodes
  exact ofDocument_eq_ok_iff.mpr (apart.decodeMembers_insert reads List.not_mem_nil members)

theorem ofDocument_insert_unknown
    (unknown : key ∉ (Fielded.fields : List (Field ρ)).map Field.key)
    (intact : stored.draft.intact = true)
    (decodes : (ofDocument document : Except Fault ρ) = .ok record) :
    (ofDocument (document.insert key stored) : Except Fault ρ) = .ok record := by
  obtain ⟨met, members⟩ := ofDocument_eq_ok_iff.mp decodes
  exact ofDocument_eq_ok_iff.mpr ⟨met, decodeMembers_insert_unknown unknown intact members⟩

/-- Counting a change is of no account for the record. -/
theorem ofDocument_bumped (decodes : (ofDocument document : Except Fault ρ) = .ok record) :
    (ofDocument document.bumped : Except Fault ρ) = .ok record :=
  ofDocument_insert_unknown LawfulRecord.version_unlisted rfl decodes

end Record

/-! ### Lists -/

section Items

variable {α : Type} [Codec α]

/-- A list that decodes was decoded item by item. -/
theorem decodeItems_cons_eq_ok {draft : Draft} {drafts : List Draft}
    {values : List α} (read : decodeItems (draft :: drafts) = .ok values) :
    ∃ first rest, Codec.decode draft = .ok first ∧ decodeItems drafts = .ok rest ∧
      values = first :: rest := by
  rw [decodeItems] at read
  split at read
  · cases read
  next first here =>
  cases later : (decodeItems drafts : Except Fault (List α)) with
  | error fault =>
    rw [later] at read
    cases read
  | ok rest =>
    rw [later] at read
    exact ⟨first, rest, here, rfl, (Except.ok.inj read).symm⟩

/-- What is left of a list that decodes, decodes. -/
theorem exists_decodeItems_of_sublist {kept drafts : List Draft}
    {values : List α} (part : kept.Sublist drafts) (read : decodeItems drafts = .ok values) :
    ∃ left : List α, decodeItems kept = .ok left := by
  induction part generalizing values with
  | slnil => exact ⟨values, read⟩
  | cons draft _ ih =>
    obtain ⟨_, _, _, later, _⟩ := decodeItems_cons_eq_ok read
    exact ih later
  | cons_cons draft _ ih =>
    obtain ⟨first, _, here, later, _⟩ := decodeItems_cons_eq_ok read
    obtain ⟨left, rest⟩ := ih later
    exact ⟨first :: left, by simp [decodeItems, here, rest, Except.map]⟩

theorem decodeItems_append_singleton {drafts : List Draft} {values : List α}
    (read : decodeItems drafts = .ok values) {last : Draft} {value : α}
    (lastRead : Codec.decode last = .ok value) :
    decodeItems (drafts ++ [last]) = .ok (values ++ [value]) := by
  induction drafts generalizing values with
  | nil =>
    cases read
    simp [decodeItems, lastRead, Except.map]
  | cons draft drafts ih =>
    obtain ⟨first, rest, here, later, rfl⟩ := decodeItems_cons_eq_ok read
    simp [decodeItems, here, ih later, Except.map]

end Items

/-! ### Membership lists -/

theorem Course.lessons_apart : Field.Apart Course.fields Course.lessonsField Course.lessons
    fun ids course => { course with lessons := ids } where
  found := rfl
  get_set _ _ := rfl
  set_set _ _ _ := rfl
  others := by
    intro field member other
    simp only [Course.fields, List.mem_cons, List.not_mem_nil, or_false] at member
    rcases member with rfl | rfl | rfl | rfl | rfl | rfl | rfl | rfl | rfl | rfl | rfl | rfl
    all_goals first
      | exact absurd rfl other
      | exact Field.ignores_optional (fun _ _ => rfl) fun _ _ _ => rfl

theorem Lesson.contents_apart : Field.Apart Lesson.fields Lesson.contentsField Lesson.contents
    fun ids lesson => { lesson with contents := ids } where
  found := rfl
  get_set _ _ := rfl
  set_set _ _ _ := rfl
  others := by
    intro field member other
    simp only [Lesson.fields, List.mem_cons, List.not_mem_nil, or_false] at member
    rcases member with rfl | rfl | rfl | rfl | rfl
    all_goals first
      | exact absurd rfl other
      | exact Field.ignores_optional (fun _ _ => rfl) fun _ _ _ => rfl

namespace Bson

/-- Texts that are decoded from texts are these. Bytes may stand for a text too. -/
theorem eq_strings_of_decodeItems {items : List Bson} {texts : List String}
    (plain : ∀ item ∈ items, ∃ text, item = .string text)
    (read : decodeItems (items.map Bson.draft) = .ok texts) : items = texts.map .string := by
  induction items generalizing texts with
  | nil =>
    cases read
    rfl
  | cons item items ih =>
    obtain ⟨text, rfl⟩ := plain item List.mem_cons_self
    obtain ⟨first, rest, here, later, rfl⟩ := decodeItems_cons_eq_ok read
    cases here
    rw [List.map_cons, ← ih (fun other member => plain other (List.mem_cons_of_mem _ member)) later]

/-- A stored value that decodes to a list is a list of what decodes to its items. -/
theorem exists_items_of_decode {stored : Bson} {texts : List String}
    (read : Codec.decode stored.draft = .ok texts) :
    ∃ items, stored = .array items ∧ decodeItems (items.map Bson.draft) = .ok texts := by
  cases stored with
  | array items =>
    rw [Bson.draft, Bson.itemsDraft_eq_map] at read
    simp only [Codec.decode, reduceCtorEq, if_false] at read
    split at read
    · cases read
    next decoded =>
    cases read
    exact ⟨items, rfl, decoded⟩
  | foreign value =>
    rw [Bson.draft, Foreign.draft] at read
    split at read <;> cases read
  | _ => cases read

end Bson

namespace Listing

variable {kind : RecordKind} {document : Document} {record : kind.Carrier}

theorem apart (listing : Listing kind) : Field.Apart (Fielded.fields : List (Field kind.Carrier))
    listing.field listing.members listing.withMembers := by
  cases listing
  · exact Course.lessons_apart
  · exact Lesson.contents_apart

/-- The items of the list as they are stored. A missing list has none. -/
def items (listing : Listing kind) (document : Document) : List Bson :=
  match document.get? listing.field with
  | some (.array items) => items
  | _ => []

/-- The ids on the list are stored as texts, and none of them as the bytes of one. -/
def StoresTexts (listing : Listing kind) (document : Document) : Prop :=
  ∀ item ∈ listing.items document, ∃ text, item = .string text

/-- The list of a record is stored in its document, unless it is empty. -/
theorem get?_of_decodes (listing : Listing kind)
    (decodes : (Record.ofDocument document : Except Fault kind.Carrier) = .ok record) :
    (document.get? listing.field = none ∨
        document.get? listing.field = some (.array (listing.items document))) ∧
      decodeItems ((listing.items document).map Bson.draft) = .ok (listing.members record) := by
  obtain ⟨met, members⟩ := Record.ofDocument_eq_ok_iff.mp decodes
  have read := listing.apart.get_of_decodeMembers members
  cases held : document.get? listing.field with
  | none =>
    rw [held] at read
    have none : listing.members record = [] := by
      rw [read]
      cases listing <;> rfl
    rw [items, held, none]
    exact ⟨.inl rfl, rfl⟩
  | some stored =>
    rw [held] at read
    obtain ⟨items, rfl, decoded⟩ := Bson.exists_items_of_decode read
    rw [Listing.items, held]
    exact ⟨.inr rfl, decoded⟩

/-- A document whose list was set to other items, which was counted. -/
def written (listing : Listing kind) (items : List Bson) (document : Document) : Document :=
  (document.insert listing.field (.array items)).bumped

/-- It stands for the record with the ids on its list that the items decode to. -/
theorem ofDocument_written (listing : Listing kind) {items : List Bson} {ids : List String}
    (read : decodeItems (items.map Bson.draft) = .ok ids)
    (decodes : (Record.ofDocument document : Except Fault kind.Carrier) = .ok record) :
    (Record.ofDocument (listing.written items document) : Except Fault kind.Carrier) =
      .ok (listing.withMembers ids record) := by
  refine Record.ofDocument_bumped (Record.ofDocument_insert listing.apart ?_ decodes)
  rw [Bson.draft, Bson.itemsDraft_eq_map]
  simp only [Codec.decode, read, reduceCtorEq, if_false]

theorem get?_written_version (listing : Listing kind) (items : List Bson) (document : Document) :
    (listing.written items document).get? versionKey = some (.int64 (document.version + 1)) := by
  have apart : versionKey ≠ listing.field := by
    cases listing <;> decide
  rw [written, Document.bumped, Document.get?_insert_self, Document.version,
    Document.get?_insert_of_ne apart, ← Document.version]

/-- **An addition** writes the list anew, with the id at its end. -/
theorem withMembership_push (listing : Listing kind) (child : String)
    (decodes : (Record.ofDocument document : Except Fault kind.Carrier) = .ok record) :
    document.withMembership .push listing.field (.string child) =
      some (listing.written (listing.items document ++ [.string child]) document) := by
  rcases (listing.get?_of_decodes decodes).1 with absent | held
  · rw [Document.withMembership, items, absent]
    rfl
  · rw [Document.withMembership, held]
    rfl

/-- **A removal** writes the list anew without the items that are the id, if there are any. -/
theorem withMembership_pull (listing : Listing kind) (child : String)
    (decodes : (Record.ofDocument document : Except Fault kind.Carrier) = .ok record) :
    let kept := (listing.items document).filter (!·.same (.string child))
    document.withMembership .pull listing.field (.string child) =
      some (if kept.length = (listing.items document).length then document
        else listing.written kept document) := by
  intro kept
  rcases (listing.get?_of_decodes decodes).1 with absent | held
  · have none : listing.items document = [] := by
      rw [items, absent]
    have same : kept.length = (listing.items document).length := by
      simp only [kept, none, List.filter_nil]
    rw [if_pos same, Document.withMembership, absent]
    rfl
  · rw [Document.withMembership, held]
    by_cases same : kept.length = (listing.items document).length
    · simp only [Membership.edit, kept, same, if_true]
    · simp only [Membership.edit, kept, same, if_false, written]

/-- What is stored of ids that are stored as texts. -/
theorem StoresTexts.items_eq {listing : Listing kind} (plain : listing.StoresTexts document)
    (decodes : (Record.ofDocument document : Except Fault kind.Carrier) = .ok record) :
    listing.items document = (listing.members record).map .string :=
  Bson.eq_strings_of_decodeItems plain (listing.get?_of_decodes decodes).2

/-- **The edit of a document is one of the record**: the edited document stands for the record with
other ids on its list. They are those of the edited list if one was added, or if all were stored as
texts; an id that is stored as bytes is read, and no removal takes it off. -/
theorem decodes_of_withMembership (listing : Listing kind) (membership : Membership) (child : String)
    (decodes : (Record.ofDocument document : Except Fault kind.Carrier) = .ok record)
    {edited : Document}
    (made : document.withMembership membership listing.field (.string child) = some edited) :
    ∃ ids, (Record.ofDocument edited : Except Fault kind.Carrier) =
        .ok (listing.withMembers ids record) ∧
      (membership = .push ∨ listing.StoresTexts document →
        ids = membership.edited child (listing.members record)) := by
  have read := (listing.get?_of_decodes decodes).2
  cases membership with
  | push =>
    cases (listing.withMembership_push child decodes).symm.trans made
    have longer := decodeItems_append_singleton read
      (show Codec.decode (Bson.string child).draft = .ok child from rfl)
    rw [← List.map_singleton, ← List.map_append] at longer
    exact ⟨_, listing.ofDocument_written longer decodes, fun _ => rfl⟩
  | pull =>
    cases (listing.withMembership_pull child decodes).symm.trans made
    have plainly : listing.StoresTexts document →
        (listing.items document).filter (!·.same (.string child)) =
          (Membership.pull.edited child (listing.members record)).map .string := by
      intro plain
      rw [plain.items_eq decodes, filter_items]
    split
    · next none =>
      refine ⟨listing.members record, by rw [withMembers_members, decodes], fun texts => ?_⟩
      have plain := texts.resolve_left nofun
      rw [plainly plain, plain.items_eq decodes, List.length_map, List.length_map] at none
      exact (List.filter_sublist.eq_of_length none).symm
    · obtain ⟨ids, kept⟩ := exists_decodeItems_of_sublist (List.filter_sublist.map Bson.draft) read
      refine ⟨ids, listing.ofDocument_written kept decodes, fun texts => ?_⟩
      have plain := texts.resolve_left nofun
      have same := Bson.eq_strings_of_decodeItems
        (fun item there => plain item (List.mem_filter.mp there).1) kept
      rw [plainly plain] at same
      exact ((List.map_inj_right fun _ _ => Bson.string.inj).mp same).symm

end Listing

end Syllabus
