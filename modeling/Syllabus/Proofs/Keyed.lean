/-
**Records by their keys.**

A namespace that is kept by the operations on records is a map from keys to records. Every call that a
workflow makes is told on this map: it leaves it, or it alters it at one key. In which order the
records are, and at which versions, is of no account here.

* `Store.Shelved` — a namespace holds records only; `RecordKind.home` — the namespace of a kind;
* `Store.Alters` — a namespace is altered at one key, and nothing else is;
* `Shelved.insertOne`, `Shelved.deleteOne`, `Shelved.editMembership` — the writes.
-/

import Syllabus.Proofs.Keeping

namespace Syllabus

/-- The namespace of the records of a kind, in the database of a course for those that belong to
one. -/
def RecordKind.home (kind : RecordKind) (course : String) : Namespace :=
  ⟨if kind.isCourseScoped then course else systemDatabase, kind.collection⟩

theorem RecordKind.eq_of_home_eq {kind other : RecordKind} {c d : String}
    (same : kind.home c = other.home d) : kind = other := by
  have collections : kind.collection = other.collection := congrArg Namespace.collection same
  revert collections
  cases kind <;> cases other <;> decide

namespace Store

variable {kind : RecordKind} {ns : Namespace} {store old next : Store}

/-- The namespace holds records of the kind, and nothing else. -/
def Shelved (store : Store) (kind : RecordKind) (ns : Namespace) : Prop :=
  ∃ entries : List (Entry kind.Carrier), store.Shelf ns entries

/-- One namespace has this record under one key now, or none, and nothing else is changed. -/
structure Alters (kind : RecordKind) (old next : Store) (ns : Namespace) (id : String)
    (value : Option kind.Carrier) : Prop where
  shelved : next.Shelved kind ns
  here : ∀ key, next.recordAt kind ns key = if key = id then value else old.recordAt kind ns key
  elsewhere : ∀ other, other ≠ ns → next.documents other = old.documents other

theorem recordAt_of_documents_eq (same : next.documents ns = old.documents ns) (id : String) :
    next.recordAt kind ns id = old.recordAt kind ns id := by
  rw [recordAt, recordAt, findOne, findOne, same]

theorem Shelved.of_documents_eq (shelved : old.Shelved kind ns)
    (same : next.documents ns = old.documents ns) : next.Shelved kind ns := by
  obtain ⟨entries, shelf⟩ := shelved
  exact ⟨entries, shelf.of_documents_eq same⟩

theorem Shelf.recordAt {entries : List (Entry kind.Carrier)} (shelf : store.Shelf ns entries)
    (id : String) :
    store.recordAt kind ns id = (entries.find? (·.key == id)).map Entry.record := by
  rw [Store.recordAt, shelf.findOne]
  cases entries.find? (·.key == id) with
  | none => rfl
  | some entry =>
    rw [Option.map_some, Option.bind_some, Entry.document, Records.decode_stored]
    rfl

theorem Shelf.recordAt_of_mem {entries : List (Entry kind.Carrier)} (shelf : store.Shelf ns entries)
    {entry : Entry kind.Carrier} (member : entry ∈ entries) :
    store.recordAt kind ns entry.key = some entry.record := by
  rw [shelf.recordAt, Shelf.find?_of_mem shelf.distinct member]
  rfl

theorem Shelf.recordAt_eq_some_iff {entries : List (Entry kind.Carrier)}
    (shelf : store.Shelf ns entries) {id : String} {record : kind.Carrier} :
    store.recordAt kind ns id = some record ↔
      ∃ entry ∈ entries, entry.key = id ∧ entry.record = record := by
  constructor
  · intro found
    rw [shelf.recordAt, Option.map_eq_some_iff] at found
    obtain ⟨entry, here, same⟩ := found
    exact ⟨entry, List.mem_of_find?_eq_some here, by simpa using List.find?_some here, same⟩
  · rintro ⟨entry, member, rfl, rfl⟩
    exact shelf.recordAt_of_mem member

theorem Shelf.recordAt_eq_none_iff {entries : List (Entry kind.Carrier)}
    (shelf : store.Shelf ns entries) {id : String} :
    store.recordAt kind ns id = none ↔ ∀ entry ∈ entries, entry.key ≠ id := by
  rw [shelf.recordAt, Option.map_eq_none_iff, List.find?_eq_none]
  simp

namespace Shelved

/-- What is found under a key is the document of a record with the key. -/
theorem findOne (shelved : store.Shelved kind ns) (id : String) :
    store.findOne ns (.byId id) = none ∨
    ∃ version, ∃ record : kind.Carrier, Record.place record = .ok ns ∧ Record.id record = id ∧
      store.findOne ns (.byId id) = some (Records.stored id version record) := by
  obtain ⟨entries, shelf⟩ := shelved
  rw [shelf.findOne]
  cases here : entries.find? (·.key == id) with
  | none => exact .inl rfl
  | some entry =>
    have keyed : entry.key = id := by simpa using List.find?_some here
    refine .inr ⟨entry.version, entry.record, ?_, keyed, ?_⟩
    · exact shelf.placed entry (List.mem_of_find?_eq_some here)
    · rw [Option.map_some, Entry.document, keyed]

/-- An insertion is refused if the key is taken, and otherwise puts the record under it. -/
theorem insertOne (shelved : store.Shelved kind ns) (spare : ObjectId) {record : kind.Carrier}
    {id : String} (placed : Record.place record = .ok ns) (keyed : Record.id record = id) :
    let reply := store.insertOne spare ns (Records.stored id 1 record)
    ((∃ error, reply.1 = .error error) ∧ ∀ other, reply.2.documents other = store.documents other) ∨
    ((∃ key, reply.1 = .ok key) ∧ store.recordAt kind ns id = none ∧
      Alters kind store reply.2 ns id (some record)) := by
  subst keyed
  obtain ⟨entries, shelf⟩ := shelved
  by_cases fresh : ∀ entry ∈ entries, entry.key ≠ Record.id record
  · obtain ⟨accepted, last⟩ := shelf.insertOne_fresh spare placed fresh
    refine .inr ⟨⟨_, accepted⟩, shelf.recordAt_eq_none_iff.mpr fresh, ⟨_, last⟩, fun key => ?_,
      fun other different => documents_insertOne_of_ne different store spare _⟩
    show Store.recordAt kind ns key (store.insertOne spare ns (Entry.document ⟨1, record⟩)).2 = _
    rw [last.recordAt, shelf.recordAt, List.find?_append]
    by_cases here : key = Record.id record
    · have none : entries.find? (·.key == key) = none := by
        rw [List.find?_eq_none, here]
        simpa using fresh
      rw [if_pos here, none, Option.none_or, List.find?_singleton, if_pos]
      · rfl
      · exact beq_iff_eq.mpr here.symm
    · have other : [(⟨1, record⟩ : Entry kind.Carrier)].find? (·.key == key) = none := by
        rw [List.find?_singleton, if_neg]
        exact fun same => here (eq_of_beq same).symm
      rw [if_neg here, other, Option.or_none]
  · have ⟨entry, taken⟩ := Classical.not_forall.mp fresh
    have ⟨member, same⟩ := Classical.not_imp.mp taken
    obtain ⟨refused, kept⟩ := shelf.insertOne_taken spare member (Classical.not_not.mp same)
    exact .inl ⟨⟨_, refused⟩, kept⟩

/-- A deletion takes effect if there is a record under the key, and leaves none. -/
theorem deleteOne (shelved : store.Shelved kind ns) (id : String) :
    let reply := store.deleteOne ns (.byId id)
    (reply.1 ≠ 0 ↔ store.recordAt kind ns id ≠ none) ∧ Alters kind store reply.2 ns id none := by
  obtain ⟨entries, shelf⟩ := shelved
  obtain ⟨answer, left⟩ := shelf.deleteOne id
  refine ⟨?_, ⟨_, left⟩, fun key => ?_, fun other different => ?_⟩
  · rw [answer, Ne, Ne, shelf.recordAt_eq_none_iff]
    simp
  · rw [left.recordAt, shelf.recordAt, List.find?_filter]
    by_cases here : key = id
    · rw [if_pos here, Option.map_eq_none_iff, List.find?_eq_none, here]
      simp
    · rw [if_neg here]
      congr 2
      funext entry
      by_cases same : entry.key = key
      · simp [same, here]
      · simp [same]
  · exact documents_respond_of_ne ⟨.delete, .deleteOne ns (.byId id)⟩
      (fun written target => (Option.some.inj target).symm) different ⟨0⟩ store

/-- An edit of a membership list fails if there is no record under the key. -/
theorem editMembership (shelved : store.Shelved kind ns) (listing : Listing kind)
    (membership : Membership) (child id : String) :
    let reply := store.editMembership ns id membership listing.field (.string child)
    (store.recordAt kind ns id = none ∧ (∃ error, reply.1 = .error error) ∧ reply.2 = store) ∨
    ∃ record, store.recordAt kind ns id = some record ∧ reply.1 = .ok () ∧
      Alters kind store reply.2 ns id (some (listing.edited membership child record)) := by
  obtain ⟨entries, shelf⟩ := shelved
  cases found : entries.find? (·.key == id) with
  | none =>
    have nobody : store.findOne ns (.byId id) = none := by
      rw [shelf.findOne, found]
      rfl
    refine .inl ⟨?_, ?_⟩
    · rw [shelf.recordAt, found]
      rfl
    · simp [Store.editMembership, nobody]
  | some entry =>
    have member := List.mem_of_find?_eq_some found
    have keyed : entry.key = id := by simpa using List.find?_some found
    subst keyed
    obtain ⟨accepted, changed⟩ := shelf.editMembership listing membership child member
    refine .inr ⟨entry.record, shelf.recordAt_of_mem member, accepted, ⟨_, changed⟩, fun key => ?_,
      fun other different => ?_⟩
    · have keys : (fun other : Entry kind.Carrier => other.key == key) ∘ (fun other =>
          if other.key = entry.key then other.edited listing membership child else other) =
          (·.key == key) := by
        funext other
        by_cases this : other.key = entry.key
        · simp [this, Entry.key_edited]
        · simp [this]
      rw [changed.recordAt, shelf.recordAt, Shelf.changeAt, List.find?_map, keys]
      by_cases here : key = entry.key
      · rw [if_pos here, here, found, Option.map_some, if_pos rfl]
        rfl
      · rw [if_neg here]
        cases others : entries.find? (·.key == key) with
        | none => rfl
        | some other =>
          have keyed : other.key = key := by simpa using List.find?_some others
          rw [Option.map_some, if_neg (keyed ▸ here)]
    · exact documents_respond_of_ne
        ⟨.sync, .editMembership ns entry.key membership listing.field (.string child)⟩
        (fun written target => (Option.some.inj target).symm) different ⟨0⟩ store

end Shelved

end Store

end Syllabus
