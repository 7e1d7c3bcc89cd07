/-
**The document store.**

A store keeps documents by namespace, in the order of their insertion. Each operation is a function
from a store to its answer and, where it writes, the next store.

* `Store.documents` — the documents of a namespace, the view that the operations are told on;
* `Store.findOne`, `Store.count` — the first document that meets a filter, and how many do;
* `Store.insertOne`, `Store.replaceOne`, `Store.deleteOne` — the writes;
* `Store.editMembership` — an edit of a list field, counted as a change of the document;
* `Store.namespaceCount` — the namespaces that ever received a document;
* `Store.documents_insertOne_of_ok`, `Store.documents_replaceOne`, `Store.documents_deleteOne` —
  what the writes do to the documents of their namespace.
-/

import Syllabus.Bson.Text
import Syllabus.Store.Error
import Syllabus.Store.Membership

namespace Syllabus

/-- Documents by namespace. -/
structure Store where
  partitions : List (Namespace × List Document)

namespace Store

/-- The name that the interface gives to this backend. -/
def backendName : String := "memory"

/-- The store without namespaces. -/
def empty : Store := ⟨[]⟩

/-- The documents among partitions of a namespace. -/
def documentsIn (ns : Namespace) : List (Namespace × List Document) → Option (List Document)
  | [] => none
  | (name, documents) :: rest => if name = ns then some documents else documentsIn ns rest

/-- The documents of a namespace, in order; none where nothing was ever inserted. -/
def documents (store : Store) (ns : Namespace) : List Document :=
  (documentsIn ns store.partitions).getD []

/-- The number of namespaces that ever received a document. -/
def namespaceCount (store : Store) : Nat :=
  store.partitions.length

/-- Partitions with the documents of one namespace changed, if it is there. -/
def updateIn (ns : Namespace) (change : List Document → List Document) :
    List (Namespace × List Document) → List (Namespace × List Document)
  | [] => []
  | (name, documents) :: rest =>
    if name = ns then (name, change documents) :: rest
    else (name, documents) :: updateIn ns change rest

/-- The store with the documents of one namespace changed, if it is there. -/
def update (store : Store) (ns : Namespace) (change : List Document → List Document) : Store :=
  ⟨updateIn ns change store.partitions⟩

/-- The store with a namespace ready to receive documents. -/
def opened (store : Store) (ns : Namespace) : Store :=
  if (documentsIn ns store.partitions).isSome then store else ⟨store.partitions ++ [(ns, [])]⟩

/-! ### Reading -/

/-- The first document that meets the filter. -/
def findOne (store : Store) (ns : Namespace) (filter : Filter) : Option Document :=
  (store.documents ns).find? filter.accepts

/-- The number of documents that meet the filter. -/
def count (store : Store) (ns : Namespace) (filter : Filter) : Nat :=
  (store.documents ns).countP filter.accepts

/-! ### Writing -/

/-- A document's key and the document with it: one that came without gets the spare key, as its last
field. -/
def keyed (spare : ObjectId) (document : Document) : Bson × Document :=
  match document.get? idKey with
  | some id => (id, document)
  | none => (.objectId spare, document.insert idKey (.objectId spare))

/-- The document has the key. -/
def holdsKey (id : Bson) (document : Document) : Bool :=
  match document.get? idKey with
  | some held => held.same id
  | none => false

/-- Adds a document at the end of its namespace and answers its key. A document without a key gets
the spare one; a key that the namespace has already is refused. -/
def insertOne (store : Store) (spare : ObjectId) (ns : Namespace) (document : Document) :
    Except StoreError Bson × Store :=
  let entry := keyed spare document
  let store := store.opened ns
  if (store.documents ns).any (holdsKey entry.1) then
    (.error (.duplicateKey ns entry.1.keyText), store)
  else (.ok entry.1, store.update ns (· ++ [entry.2]))

/-- A document in the place of another, whose key it keeps. -/
def replacement (old new : Document) : Document :=
  match old.get? idKey with
  | some id => new.insert idKey id
  | none => new.erase idKey

/-- Documents with the first one that meets the filter changed. -/
def changeFirst (filter : Filter) (change : Document → Document) : List Document → List Document
  | [] => []
  | document :: rest =>
    if filter.accepts document then change document :: rest
    else document :: changeFirst filter change rest

/-- Replaces the first document that meets the filter, which keeps its key and its position, and
answers how many were replaced. -/
def replaceOne (store : Store) (ns : Namespace) (filter : Filter) (document : Document) :
    Nat × Store :=
  if (store.documents ns).any filter.accepts then
    (1, store.update ns (changeFirst filter (replacement · document)))
  else (0, store)

/-- Removes the first document that meets the filter and answers how many were removed. -/
def deleteOne (store : Store) (ns : Namespace) (filter : Filter) : Nat × Store :=
  if (store.documents ns).any filter.accepts then
    (1, store.update ns (·.eraseP filter.accepts))
  else (0, store)

/-- Edits a list field of the document with the key. -/
def editMembership (store : Store) (ns : Namespace) (id : String) (membership : Membership)
    (field : String) (element : Bson) : Except StoreError Unit × Store :=
  match store.findOne ns (.byId id) with
  | none => (.error (.notFound ns id), store)
  | some document =>
    match document.withMembership membership field element with
    | none => (.error (.notAnArray ns id field), store)
    | some edited => (.ok (), store.update ns (changeFirst (.byId id) fun _ => edited))

/-! ### The documents after a change -/

/-- Changing one namespace leaves the documents of another. -/
theorem documentsIn_updateIn_of_ne {ns other : Namespace} (different : other ≠ ns)
    (change : List Document → List Document) (partitions : List (Namespace × List Document)) :
    documentsIn other (updateIn ns change partitions) = documentsIn other partitions := by
  induction partitions with
  | nil => rfl
  | cons partition rest ih =>
    obtain ⟨name, documents⟩ := partition
    by_cases here : name = ns
    · simp [updateIn, documentsIn, here, different.symm]
    · by_cases there : name = other <;> simp_all [updateIn, documentsIn]

/-- Changing a namespace changes its documents, if it is there. -/
theorem documentsIn_updateIn_self (ns : Namespace) (change : List Document → List Document)
    (partitions : List (Namespace × List Document)) :
    documentsIn ns (updateIn ns change partitions) = (documentsIn ns partitions).map change := by
  induction partitions with
  | nil => rfl
  | cons partition rest ih =>
    obtain ⟨name, documents⟩ := partition
    by_cases here : name = ns <;> simp [updateIn, documentsIn, here, ih]

/-- Changing one namespace leaves the documents of another. -/
theorem documents_update_of_ne {ns other : Namespace} (different : other ≠ ns) (store : Store)
    (change : List Document → List Document) :
    (store.update ns change).documents other = store.documents other := by
  simp [documents, update, documentsIn_updateIn_of_ne different]

/-- A change that makes no documents out of none changes the documents of its namespace. -/
theorem documents_update_self (store : Store) (ns : Namespace)
    {change : List Document → List Document} (nothing : change [] = []) :
    (store.update ns change).documents ns = change (store.documents ns) := by
  simp only [documents, update, documentsIn_updateIn_self]
  cases documentsIn ns store.partitions <;> simp [nothing]

/-- A namespace at the end is found if no other of its name comes first. -/
theorem documentsIn_append (ns name : Namespace) (documents : List Document)
    (partitions : List (Namespace × List Document)) :
    documentsIn ns (partitions ++ [(name, documents)]) =
      (documentsIn ns partitions).or (if name = ns then some documents else none) := by
  induction partitions with
  | nil => simp [documentsIn]
  | cons partition rest ih =>
    obtain ⟨first, held⟩ := partition
    by_cases here : first = ns <;> simp [documentsIn, here, ih]

/-- A namespace that was made ready is there, with the documents it had. -/
theorem documentsIn_opened (store : Store) (ns : Namespace) :
    documentsIn ns (store.opened ns).partitions = some (store.documents ns) := by
  unfold opened documents
  cases found : documentsIn ns store.partitions <;> simp [documentsIn_append, found]

/-- Making a namespace ready leaves all documents. -/
@[simp]
theorem documents_opened (store : Store) (ns other : Namespace) :
    (store.opened ns).documents other = store.documents other := by
  unfold opened
  split
  · rfl
  · simp only [documents, documentsIn_append]
    cases documentsIn other store.partitions <;> by_cases same : ns = other <;> simp [same]

/-- **A document that is accepted comes last in its namespace.** -/
theorem documents_insertOne_of_ok {store : Store} {spare : ObjectId} {ns : Namespace}
    {document : Document} {id : Bson}
    (accepted : (store.insertOne spare ns document).1 = .ok id) :
    (store.insertOne spare ns document).2.documents ns =
      store.documents ns ++ [(keyed spare document).2] := by
  unfold insertOne at accepted ⊢
  dsimp only at accepted ⊢
  split at accepted
  · cases accepted
  · next fresh =>
    rw [if_neg fresh]
    simp [documents, update, documentsIn_updateIn_self, documentsIn_opened]

/-- **An insertion leaves the documents of other namespaces.** -/
theorem documents_insertOne_of_ne {ns other : Namespace} (different : other ≠ ns) (store : Store)
    (spare : ObjectId) (document : Document) :
    (store.insertOne spare ns document).2.documents other = store.documents other := by
  unfold insertOne
  dsimp only
  split
  · exact documents_opened store ns other
  · rw [documents_update_of_ne different, documents_opened]

/-- Where no document meets the filter, none is changed. -/
theorem changeFirst_of_not_any {filter : Filter} {documents : List Document}
    (unmet : documents.any filter.accepts = false) (change : Document → Document) :
    changeFirst filter change documents = documents := by
  induction documents with
  | nil => rfl
  | cons document rest ih =>
    simp only [List.any_cons, Bool.or_eq_false_iff] at unmet
    simp [changeFirst, unmet.1, ih unmet.2]

/-- **A replacement changes the first document that meets the filter, and nothing else.** -/
theorem documents_replaceOne (store : Store) (ns : Namespace) (filter : Filter)
    (document : Document) :
    (store.replaceOne ns filter document).2.documents ns =
      changeFirst filter (replacement · document) (store.documents ns) := by
  unfold replaceOne
  split
  · exact documents_update_self store ns rfl
  · next unmet => rw [changeFirst_of_not_any (by simpa using unmet)]

/-- **A deletion removes the first document that meets the filter, and nothing else.** -/
theorem documents_deleteOne (store : Store) (ns : Namespace) (filter : Filter) :
    (store.deleteOne ns filter).2.documents ns = (store.documents ns).eraseP filter.accepts := by
  unfold deleteOne
  split
  · exact documents_update_self store ns rfl
  · next unmet =>
    rw [List.eraseP_of_forall_not]
    simpa using unmet

end Store

end Syllabus
