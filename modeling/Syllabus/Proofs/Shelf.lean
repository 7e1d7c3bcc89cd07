/-
**The records of a namespace.**

A namespace that is kept by the operations on records holds the documents of records, each at its
place, no two with one key. The store calls are told on this list of records; what they do to
documents need not be looked at again.

* `Entry` — a record with its version; `Store.Shelf` — a namespace holds just these entries, in order;
* `Shelf.findOne`, `Shelf.count_eq_zero_iff` — what reads answer;
* `Shelf.insertOne`, `Shelf.deleteOne`, `Shelf.replaceOne`, `Shelf.editMembership` — what writes
  answer and leave.
-/

import Syllabus.Proofs.Listing
import Syllabus.Proofs.OneRecord

namespace Syllabus

/-- A record and the version that is stored with it. -/
structure Entry (ρ : Type) where
  version : Int64
  record : ρ

namespace Entry

variable {ρ : Type} [Record ρ]

/-- The key of the record. -/
def key (entry : Entry ρ) : String :=
  Record.id entry.record

/-- The document that the entry is kept as. -/
def document (entry : Entry ρ) : Document :=
  Records.stored entry.key entry.version entry.record

end Entry

/-- All records are read back from their documents, in order. -/
theorem Records.decodeAll_documents {ρ : Type} [Record ρ] [LawfulRecord ρ] (ns : Namespace)
    (entries : List (Entry ρ)) :
    (decodeAll ns (entries.map Entry.document) : Except StoreError (List ρ)) =
      .ok (entries.map Entry.record) := by
  induction entries with
  | nil => rfl
  | cons entry rest ih =>
    simp only [List.map_cons, decodeAll, Entry.document, decode_stored]
    rw [ih]
    rfl

/-- An entry with the membership list of its record edited. A change of the list is counted. -/
def Entry.edited {kind : RecordKind} (listing : Listing kind) (membership : Membership)
    (child : String) (entry : Entry kind.Carrier) : Entry kind.Carrier where
  version :=
    if membership.edited child (listing.members entry.record) = listing.members entry.record then
      entry.version
    else entry.version + 1
  record := listing.edited membership child entry.record

theorem Entry.key_edited {kind : RecordKind} (listing : Listing kind) (membership : Membership)
    (child : String) (entry : Entry kind.Carrier) :
    (entry.edited listing membership child).key = entry.key :=
  listing.id_edited membership child entry.record

namespace Store

/-- The namespace holds the documents of these entries, in order: each record is at its place, and no
two have one key. -/
structure Shelf {ρ : Type} [Record ρ] (store : Store) (ns : Namespace) (entries : List (Entry ρ)) :
    Prop where
  documents : store.documents ns = entries.map Entry.document
  placed : ∀ entry ∈ entries, Record.place entry.record = .ok ns
  distinct : (entries.map Entry.key).Nodup

namespace Shelf

variable {ρ : Type} [Record ρ] {store : Store} {ns : Namespace} {entries : List (Entry ρ)}

/-- Where nothing is kept, the shelf is empty. -/
theorem nil (nothing : store.documents ns = []) : store.Shelf ns ([] : List (Entry ρ)) where
  documents := nothing
  placed := by simp
  distinct := List.nodup_nil

/-- One record, and nothing else. -/
theorem single {entry : Entry ρ} (only : store.documents ns = [entry.document])
    (placed : Record.place entry.record = .ok ns) : store.Shelf ns [entry] where
  documents := only
  placed := by
    intro other member
    rwa [List.mem_singleton.mp member]
  distinct := by simp

/-- A shelf is there as long as the documents of its namespace are. -/
theorem of_documents_eq (shelf : store.Shelf ns entries) {next : Store}
    (same : next.documents ns = store.documents ns) : next.Shelf ns entries where
  documents := same.trans shelf.documents
  placed := shelf.placed
  distinct := shelf.distinct

/-! ### Reads -/

theorem find?_of_mem (distinct : (entries.map Entry.key).Nodup) {entry : Entry ρ}
    (member : entry ∈ entries) : entries.find? (·.key == entry.key) = some entry := by
  induction entries with
  | nil => cases member
  | cons first rest ih =>
    rw [List.map_cons, List.nodup_cons] at distinct
    rcases List.mem_cons.mp member with rfl | later
    · simp
    · have other : first.key ≠ entry.key := fun same =>
        distinct.1 (same ▸ List.mem_map_of_mem later)
      rw [List.find?_cons_of_neg (by simpa using other)]
      exact ih distinct.2 later

theorem fresh_iff {id : String} : (∀ entry ∈ entries, entry.key ≠ id) ↔ id ∉ entries.map Entry.key := by
  simp

/-- Entries with one key are one. -/
theorem eq_of_key_eq (distinct : (entries.map Entry.key).Nodup) {first second : Entry ρ}
    (member : first ∈ entries) (member' : second ∈ entries) (same : first.key = second.key) :
    first = second := by
  have found := find?_of_mem distinct member
  rw [same, find?_of_mem distinct member'] at found
  exact (Option.some.inj found).symm

theorem findOne (shelf : store.Shelf ns entries) (id : String) :
    store.findOne ns (.byId id) = (entries.find? (·.key == id)).map Entry.document := by
  rw [Store.findOne, shelf.documents, List.find?_map]
  congr 2
  funext entry
  simp [Entry.document]

/-- The record of an entry is there, and nobody else answers to its key. -/
theorem has_of_mem (shelf : store.Shelf ns entries) {entry : Entry ρ} (member : entry ∈ entries) :
    store.Has ns entry.key entry.version entry.record := by
  obtain ⟨front, back, rfl⟩ := List.append_of_mem member
  have distinct := shelf.distinct
  rw [List.map_append, List.map_cons, List.nodup_append, List.nodup_cons] at distinct
  obtain ⟨_, ⟨after, _⟩, before⟩ := distinct
  refine ⟨front.map Entry.document, back.map Entry.document, ?_, ?_, ?_⟩
  · intro document there
    obtain ⟨other, known, rfl⟩ := List.mem_map.mp there
    have different := before _ (List.mem_map_of_mem known) _ List.mem_cons_self
    simpa [Entry.document] using different
  · intro document there
    obtain ⟨other, known, rfl⟩ := List.mem_map.mp there
    have different : other.key ≠ entry.key := fun same =>
      after (same ▸ List.mem_map_of_mem known)
    simpa [Entry.document] using different
  · rw [shelf.documents, List.map_append, List.map_cons]
    rfl

/-- Nobody answers to a key exactly if no entry has it. -/
theorem count_eq_zero_iff (shelf : store.Shelf ns entries) (id : String) :
    store.count ns (.byId id) = 0 ↔ ∀ entry ∈ entries, entry.key ≠ id := by
  rw [Store.count, shelf.documents, List.countP_map, List.countP_eq_zero]
  simp [Entry.document]

/-! ### Writes -/

/-- A new record comes last. -/
theorem insertOne_fresh (shelf : store.Shelf ns entries) (spare : ObjectId) {record : ρ}
    (placed : Record.place record = .ok ns)
    (fresh : ∀ entry ∈ entries, entry.key ≠ Record.id record) :
    (store.insertOne spare ns (Entry.document ⟨1, record⟩)).1 = .ok (.string (Record.id record)) ∧
      (store.insertOne spare ns (Entry.document ⟨1, record⟩)).2.Shelf ns
        (entries ++ [⟨1, record⟩]) := by
  have lacks : store.Lacks ns (Record.id record) :=
    lacks_of_count_eq_zero ((shelf.count_eq_zero_iff _).mpr fresh)
  obtain ⟨accepted, last⟩ := documents_insertOne_of_lacks lacks spare 1 record
  refine ⟨accepted, ?_, ?_, ?_⟩
  · rw [List.map_append, ← shelf.documents]
    exact last
  · intro entry member
    rcases List.mem_append.mp member with before | here
    · exact shelf.placed entry before
    · rw [List.mem_singleton.mp here]
      exact placed
  · rw [List.map_append]
    refine List.nodup_append.mpr ⟨shelf.distinct, by simp, ?_⟩
    intro key known other here
    obtain ⟨entry, member, rfl⟩ := List.mem_map.mp known
    rw [List.map_singleton, List.mem_singleton] at here
    rw [here]
    exact fresh entry member

/-- A record whose key is taken is refused. -/
theorem insertOne_taken (shelf : store.Shelf ns entries) (spare : ObjectId) {record : ρ}
    {entry : Entry ρ} (member : entry ∈ entries) (taken : entry.key = Record.id record) :
    (store.insertOne spare ns (Entry.document ⟨1, record⟩)).1 =
        .error (.duplicateKey ns (Record.id record)) ∧
      ∀ other, (store.insertOne spare ns (Entry.document ⟨1, record⟩)).2.documents other =
        store.documents other := by
  have held : holdsKey (.string (Record.id record)) entry.document = true := by
    simp [holdsKey, Entry.document, taken]
  have full : ((store.opened ns).documents ns).any (holdsKey (.string (Record.id record))) = true := by
    rw [documents_opened, shelf.documents, List.any_map]
    exact List.any_eq_true.mpr ⟨entry, member, held⟩
  have keyed : keyed spare (Entry.document ⟨1, record⟩) =
      (.string (Record.id record), Entry.document ⟨1, record⟩) := by
    simp [Store.keyed, Entry.document, Entry.key]
  unfold Store.insertOne
  simp only [keyed, full, if_true]
  exact ⟨rfl, documents_opened store ns⟩

theorem eraseP_eq_filter (distinct : (entries.map Entry.key).Nodup) (id : String) :
    entries.eraseP (·.key == id) = entries.filter (·.key != id) := by
  induction entries with
  | nil => rfl
  | cons first rest ih =>
    rw [List.map_cons, List.nodup_cons] at distinct
    by_cases here : first.key = id
    · have others : rest.filter (·.key != id) = rest := by
        rw [List.filter_eq_self]
        intro entry member
        have other : entry.key ≠ id := fun same =>
          distinct.1 (here.trans same.symm ▸ List.mem_map_of_mem member)
        simpa using other
      simp [here, others]
    · simp [here, ih distinct.2]

/-- A deletion leaves the other entries. -/
theorem deleteOne (shelf : store.Shelf ns entries) (id : String) :
    (store.deleteOne ns (.byId id)).1 = (if entries.any (·.key == id) then 1 else 0) ∧
      (store.deleteOne ns (.byId id)).2.Shelf ns (entries.filter (·.key != id)) := by
  have answers : (Filter.byId id).accepts ∘ Entry.document = fun entry : Entry ρ => entry.key == id := by
    funext entry
    simp [Entry.document]
  constructor
  · unfold Store.deleteOne
    rw [shelf.documents, List.any_map, answers]
    split <;> rfl
  · refine ⟨?_, ?_, ?_⟩
    · rw [documents_deleteOne, shelf.documents, List.eraseP_map, answers,
        eraseP_eq_filter shelf.distinct]
    · intro entry member
      exact shelf.placed entry (List.mem_filter.mp member).1
    · exact shelf.distinct.sublist (List.filter_sublist.map Entry.key)

/-- The entries with the one that has the key changed. -/
def changeAt (id : String) (change : Entry ρ → Entry ρ) (entries : List (Entry ρ)) :
    List (Entry ρ) :=
  entries.map fun entry => if entry.key = id then change entry else entry

theorem changeAt_of_fresh {id : String} (fresh : ∀ entry ∈ entries, entry.key ≠ id)
    (change : Entry ρ → Entry ρ) : changeAt id change entries = entries := by
  unfold changeAt
  rw [List.map_congr_left (g := fun entry => entry) fun entry member => if_neg (fresh entry member)]
  exact List.map_id' entries

/-- The first document that meets a filter for one key is that of the entry with the key. -/
theorem changeFirst_documents (distinct : (entries.map Entry.key).Nodup) {filter : Filter}
    {id : String} {change : Entry ρ → Entry ρ} {rewrite : Document → Document}
    (met : ∀ entry ∈ entries, entry.key = id →
      filter.accepts entry.document = true ∧ rewrite entry.document = (change entry).document)
    (unmet : ∀ entry ∈ entries, entry.key ≠ id → filter.accepts entry.document = false) :
    changeFirst filter rewrite (entries.map Entry.document) =
      (changeAt id change entries).map Entry.document := by
  induction entries with
  | nil => rfl
  | cons first rest ih =>
    rw [List.map_cons, List.nodup_cons] at distinct
    by_cases here : first.key = id
    · have others : ∀ entry ∈ rest, entry.key ≠ id := fun entry member same =>
        distinct.1 (here.trans same.symm ▸ List.mem_map_of_mem member)
      obtain ⟨accepted, rewritten⟩ := met first List.mem_cons_self here
      have rest_same := changeAt_of_fresh others change
      unfold changeAt at rest_same ⊢
      rw [List.map_cons, changeFirst, if_pos accepted, List.map_cons, if_pos here, rest_same,
        List.map_cons, rewritten]
    · have refused := unmet first List.mem_cons_self here
      have ih := ih distinct.2 (fun entry member => met entry (List.mem_cons_of_mem _ member))
        (fun entry member => unmet entry (List.mem_cons_of_mem _ member))
      unfold changeAt at ih ⊢
      rw [List.map_cons, changeFirst, refused, List.map_cons, if_neg here, List.map_cons, ← ih]
      rfl

theorem map_key_changeAt {id : String} {change : Entry ρ → Entry ρ}
    (keeps : ∀ entry ∈ entries, entry.key = id → (change entry).key = id) :
    (changeAt id change entries).map Entry.key = entries.map Entry.key := by
  rw [changeAt, List.map_map]
  refine List.map_congr_left fun entry member => ?_
  by_cases here : entry.key = id
  · simp [here, keeps entry member here]
  · simp [here]

/-- A shelf with one entry changed, which keeps its key and its place. -/
theorem changed (shelf : store.Shelf ns entries) {id : String} {change : Entry ρ → Entry ρ}
    {next : Store}
    (documents : next.documents ns = (changeAt id change entries).map Entry.document)
    (keeps : ∀ entry ∈ entries, entry.key = id → (change entry).key = id ∧
      Record.place (change entry).record = .ok ns) :
    next.Shelf ns (changeAt id change entries) := by
  have keys : (changeAt id change entries).map Entry.key = entries.map Entry.key :=
    map_key_changeAt fun entry member here => (keeps entry member here).1
  refine ⟨documents, ?_, keys ▸ shelf.distinct⟩
  intro changed member
  obtain ⟨entry, known, rfl⟩ := List.mem_map.mp member
  by_cases here : entry.key = id
  · rw [if_pos here]
    exact (keeps entry known here).2
  · rw [if_neg here]
    exact shelf.placed entry known

/-- A replacement over the version of an entry changes the entry. -/
theorem replaceOne (shelf : store.Shelf ns entries) {entry : Entry ρ} (member : entry ∈ entries)
    {change : Entry ρ → Entry ρ} (keyed : (change entry).key = entry.key)
    (placed : Record.place (change entry).record = .ok ns) :
    (store.replaceOne ns (.guard entry.key (.int64 entry.version)) (change entry).document).1 = 1 ∧
    (store.replaceOne ns (.guard entry.key (.int64 entry.version)) (change entry).document).2.Shelf ns
      (changeAt entry.key change entries) := by
  have accepted : (Filter.guard entry.key (.int64 entry.version)).accepts entry.document = true := by
    simp [Filter.guard, Entry.document]
  have met : (store.documents ns).any (Filter.guard entry.key (.int64 entry.version)).accepts =
      true := by
    rw [shelf.documents, List.any_map]
    exact List.any_eq_true.mpr ⟨entry, member, accepted⟩
  constructor
  · rw [Store.replaceOne, if_pos met]
  · refine shelf.changed ?_ ?_
    · rw [documents_replaceOne, shelf.documents]
      refine changeFirst_documents shelf.distinct ?_ ?_
      · intro other known same
        cases eq_of_key_eq shelf.distinct known member same
        refine ⟨accepted, ?_⟩
        rw [Entry.document, Entry.document, keyed]
        exact Records.replacement_stored (Records.get?_stored_id _ _ _) _ _
      · intro other known different
        exact guard_unmet (by simpa [Entry.document] using different) _
    · intro other known same
      cases eq_of_key_eq shelf.distinct known member same
      exact ⟨keyed, placed⟩

end Shelf

/-! ### Membership lists -/

namespace Shelf

variable {kind : RecordKind} {store : Store} {ns : Namespace} {entries : List (Entry kind.Carrier)}

/-- An edit of the membership list of a record that is there. -/
theorem editMembership (shelf : store.Shelf ns entries) (listing : Listing kind)
    (membership : Membership) (child : String) {entry : Entry kind.Carrier}
    (member : entry ∈ entries) :
    (store.editMembership ns entry.key membership listing.field (.string child)).1 = .ok () ∧
      (store.editMembership ns entry.key membership listing.field (.string child)).2.Shelf ns
        (changeAt entry.key (Entry.edited listing membership child) entries) := by
  have found : store.findOne ns (.byId entry.key) = some entry.document := by
    rw [shelf.findOne, find?_of_mem shelf.distinct member]
    rfl
  have edit : entry.document.withMembership membership listing.field (.string child) =
      some (entry.edited listing membership child).document := by
    rw [Entry.document, listing.withMembership_stored, Entry.document, Entry.key_edited]
    rfl
  unfold Store.editMembership
  simp only [found, edit, true_and]
  refine shelf.changed ?_ fun other known same => ?_
  · rw [documents_update_self _ _ rfl, shelf.documents]
    refine changeFirst_documents shelf.distinct ?_ ?_
    · intro other known same
      cases eq_of_key_eq shelf.distinct known member same
      exact ⟨by simp [Entry.document], rfl⟩
    · intro other known different
      simpa [Entry.document] using different
  · refine ⟨(Entry.key_edited ..).trans same, ?_⟩
    exact (listing.place_edited ..).trans (shelf.placed other known)

end Shelf

end Store

end Syllabus
