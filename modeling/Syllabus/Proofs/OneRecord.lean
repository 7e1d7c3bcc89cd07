/-
**One record among the documents of a namespace.**

Either nobody answers to the key of a record, or one document does and it is that of the record. What
each store call answers then, and what it leaves, is told here once.

* `Store.Has`, `Store.Lacks` — the record is there at a version, or nobody answers to its key;
  `Store.recordAt` — the record, if there is one;
* `Store.insertOne_of_error` — a refused insertion leaves the store; `Store.update_congr` — two changes of
  a namespace that come to the same there;
* `findOne_of_has`, `replaceOne_of_has`, `deleteOne_of_has`, `editMembership_of_has` — calls for a
  record that is there; `insertOne_of_has` — a second one is refused;
* `findOne_of_lacks`, `count_of_lacks`, `replaceOne_of_lacks`, `deleteOne_of_lacks`,
  `insertOne_of_lacks` — and for one that is not;
* `Records.run_create` — the creation of a record as one insertion.
-/

import Syllabus.Proofs.ReadBack.Record

namespace Syllabus

/-- A record that is kept at a place under a key. -/
structure Addressed (kind : RecordKind) (ns : Namespace) (id : String) where
  record : kind.Carrier
  placed : Record.place record = .ok ns
  keyed : Record.id record = id

/-- A course as a record under its key. -/
def Course.addressed (course : Course) :
    Addressed .course ⟨systemDatabase, RecordKind.course.collection⟩ course.courseId :=
  ⟨course, rfl, rfl⟩

/-- The version as it was read, where a missing one is null. -/
abbrev Document.readVersion (document : Document) : Bson :=
  (document.get? versionKey).getD .null

theorem Records.readVersion_stored {ρ : Type} [Record ρ] (id : String) (version : Int64) (record : ρ) :
    (stored id version record).readVersion = .int64 version := by
  rw [Document.readVersion, get?_stored_version, Option.getD_some]

/-- The guard of an update: the key and the version that was read. -/
def Filter.guard (id : String) (previous : Bson) : Filter :=
  (Filter.byId id).also versionKey (.eq previous)

/-- Documents that do not answer to a key. -/
def Strangers (id : String) (documents : List Document) : Prop :=
  ∀ document ∈ documents, (Filter.byId id).accepts document = false

theorem Bson.eq_of_int64_same {number : Int64} {value : Bson}
    (same : (Bson.int64 number).same value = true) : value = .int64 number := by
  cases value with
  | int64 other =>
    simp only [Bson.same, beq_iff_eq] at same
    rw [same]
  | _ => simp [Bson.same] at same

namespace Store

theorem respond_insertOne (spare : ObjectId) (store : Store) (operation : Operation)
    (ns : Namespace) (document : Document) :
    store.respond spare ⟨operation, .insertOne ns document⟩ = store.insertOne spare ns document := rfl

theorem respond_replaceOne (spare : ObjectId) (store : Store) (operation : Operation)
    (ns : Namespace) (filter : Filter) (document : Document) :
    store.respond spare ⟨operation, .replaceOne ns filter document⟩ =
      (.ok (store.replaceOne ns filter document).1, (store.replaceOne ns filter document).2) := rfl

theorem respond_deleteOne (spare : ObjectId) (store : Store) (operation : Operation)
    (ns : Namespace) (filter : Filter) :
    store.respond spare ⟨operation, .deleteOne ns filter⟩ =
      (.ok (store.deleteOne ns filter).1, (store.deleteOne ns filter).2) := rfl

theorem respond_editMembership (spare : ObjectId) (store : Store) (operation : Operation)
    (ns : Namespace) (id : String) (membership : Membership) (field : String) (element : Bson) :
    store.respond spare ⟨operation, .editMembership ns id membership field element⟩ =
      store.editMembership ns id membership field element := rfl

/-! ### The namespaces of a store -/

theorem fst_updateIn (ns : Namespace) (change : List Document → List Document)
    (partitions : List (Namespace × List Document)) :
    (updateIn ns change partitions).map Prod.fst = partitions.map Prod.fst := by
  induction partitions with
  | nil => rfl
  | cons partition rest ih =>
    obtain ⟨name, documents⟩ := partition
    by_cases here : name = ns <;> simp [updateIn, here, ih]

/-- A namespace that holds documents is there already. -/
theorem opened_eq_self {store : Store} {ns : Namespace} {document : Document}
    (member : document ∈ store.documents ns) : store.opened ns = store := by
  unfold opened
  cases there : documentsIn ns store.partitions with
  | none =>
    rw [documents, there] at member
    cases member
  | some documents => rfl

/-- An insertion is refused only where a document has the key already, so that it leaves the store
although it makes the namespace ready first. -/
theorem insertOne_of_error {spare : ObjectId} {store : Store} {ns : Namespace} {document : Document}
    {error : StoreError} (refused : (store.insertOne spare ns document).1 = .error error) :
    (store.insertOne spare ns document).2 = store := by
  unfold insertOne at refused ⊢
  dsimp only at refused ⊢
  split at refused
  · next taken =>
    rw [if_pos taken]
    rw [documents_opened, List.any_eq_true] at taken
    obtain ⟨other, member, _⟩ := taken
    exact opened_eq_self member
  · cases refused

/-- Only what a change makes of the documents that are there is of account. -/
theorem update_congr {store : Store} {ns : Namespace} {change : List Document → List Document}
    (other : List Document → List Document)
    (same : change (store.documents ns) = other (store.documents ns)) :
    store.update ns change = store.update ns other := by
  have partitions : ∀ partitions : List (Namespace × List Document),
      change ((documentsIn ns partitions).getD []) = other ((documentsIn ns partitions).getD []) →
      updateIn ns change partitions = updateIn ns other partitions := by
    intro partitions same
    induction partitions with
    | nil => rfl
    | cons partition rest ih =>
      obtain ⟨name, documents⟩ := partition
      by_cases here : name = ns
      · simp only [documentsIn, here, if_true, Option.getD_some] at same
        simp [updateIn, here, same]
      · simp only [documentsIn, here, if_false] at same
        simp [updateIn, here, ih same]
  exact congrArg Store.mk (partitions store.partitions same)

/-- Documents that are left as they are leave the store. -/
theorem update_self {store : Store} {ns : Namespace} {change : List Document → List Document}
    (same : change (store.documents ns) = store.documents ns) : store.update ns change = store := by
  have partitions : ∀ partitions : List (Namespace × List Document),
      updateIn ns id partitions = partitions := by
    intro partitions
    induction partitions with
    | nil => rfl
    | cons partition rest ih =>
      obtain ⟨name, documents⟩ := partition
      by_cases here : name = ns <;> simp [updateIn, here, ih]
  rw [update_congr id same]
  exact congrArg Store.mk (partitions store.partitions)

/-! ### Lists of documents -/

theorem changeFirst_append {filter : Filter} {front : List Document}
    (unmet : ∀ document ∈ front, filter.accepts document = false) (change : Document → Document)
    (back : List Document) :
    changeFirst filter change (front ++ back) = front ++ changeFirst filter change back := by
  induction front with
  | nil => rfl
  | cons document front ih =>
    have here := unmet document List.mem_cons_self
    have rest := ih fun other member => unmet other (List.mem_cons_of_mem _ member)
    simp [changeFirst, here, rest]

/-- A document that has the key answers to it. -/
theorem byId_accepts_of_holdsKey {id : String} {document : Document}
    (holds : holdsKey (.string id) document = true) :
    (Filter.byId id).accepts document = true := by
  unfold holdsKey at holds
  cases found : document.get? idKey with
  | none => simp [found] at holds
  | some held =>
    simp only [found] at holds
    cases held <;> simp_all [Filter.accepts, Filter.byId, Condition.holds, valueMatches, Bson.same]

theorem guard_unmet {id : String} {document : Document}
    (stranger : (Filter.byId id).accepts document = false) (previous : Bson) :
    (Filter.guard id previous).accepts document = false := by
  simp only [Filter.accepts, Filter.guard, Filter.also, List.all_append, Bool.and_eq_false_iff]
  exact .inl stranger

variable {ρ : Type} [Record ρ] {store : Store} {ns : Namespace} {id : String} {version : Int64}
  {record : ρ}

/-- The record is there at a version, and nobody else answers to its key. -/
def Has (store : Store) (ns : Namespace) (id : String) (version : Int64) (record : ρ) : Prop :=
  ∃ front back, Strangers id front ∧ Strangers id back ∧
    store.documents ns = front ++ Records.stored id version record :: back

/-- Nobody answers to the key. -/
def Lacks (store : Store) (ns : Namespace) (id : String) : Prop :=
  Strangers id (store.documents ns)

theorem lacks_of_count_eq_zero (free : store.count ns (.byId id) = 0) : store.Lacks ns id := by
  intro document member
  have unmet := List.countP_eq_zero.mp free document member
  simpa using unmet

/-- The record of a kind under a key. -/
def recordAt (kind : RecordKind) (ns : Namespace) (id : String) (store : Store) :
    Option kind.Carrier :=
  (store.findOne ns (.byId id)).bind fun document =>
    (Records.decode ns document : Except StoreError kind.Carrier).toOption

/-! ### A record that is there -/

theorem findOne_of_has (has : store.Has ns id version record) :
    store.findOne ns (.byId id) = some (Records.stored id version record) := by
  obtain ⟨front, back, strangers, _, held⟩ := has
  rw [findOne, held, List.find?_append, List.find?_eq_none.mpr fun document member => by
    simp [strangers document member], Option.none_or]
  simp

theorem recordAt_of_has {kind : RecordKind} {record : kind.Carrier}
    (has : store.Has ns id version record) : store.recordAt kind ns id = some record := by
  rw [recordAt, findOne_of_has has, Option.bind_some, Records.decode_stored]
  rfl

/-- It is there in every store with the same documents at its place. -/
theorem Has.of_documents_eq {next : Store} (has : store.Has ns id version record)
    (same : next.documents ns = store.documents ns) : next.Has ns id version record := by
  obtain ⟨front, back, strangers, others, held⟩ := has
  exact ⟨front, back, strangers, others, same.trans held⟩

/-- A record that is there at a version is not there at the next one. -/
theorem not_has_next (has : store.Has ns id version record) {next : ρ} :
    ¬ store.Has ns id (version + 1) next := by
  intro later
  have same := (findOne_of_has has).symm.trans (findOne_of_has later)
  have versions := congrArg Document.version (Option.some.inj same)
  rw [Records.version_stored, Records.version_stored] at versions
  simp at versions

/-- A replacement over the version of a record puts the new document in the place of its own. -/
theorem replaceOne_eq_of_has (has : store.Has ns id version record) (next : Int64) (changed : ρ) :
    store.replaceOne ns (.guard id (.int64 version)) (Records.stored id next changed) =
      (1, store.update ns (changeFirst (.byId id) fun _ => Records.stored id next changed)) := by
  obtain ⟨front, back, strangers, _, held⟩ := has
  have unmet : ∀ document ∈ front, (Filter.guard id (.int64 version)).accepts document = false :=
    fun document member => guard_unmet (strangers document member) _
  have accepted : (Filter.guard id (.int64 version)).accepts (Records.stored id version record) =
      true := by
    simp [Filter.guard]
  have answers : (Filter.byId id).accepts (Records.stored id version record) = true := by simp
  have met : (store.documents ns).any (Filter.guard id (.int64 version)).accepts = true := by
    simp [held, accepted]
  rw [replaceOne, if_pos met]
  refine Prod.ext rfl (update_congr _ ?_)
  rw [held, changeFirst_append unmet, changeFirst_append strangers, changeFirst, if_pos accepted,
    changeFirst, if_pos answers, Records.replacement_stored (Records.get?_stored_id id version record)]

/-- The record is there then as the new document has it. -/
theorem has_update (has : store.Has ns id version record) (next : Int64) (changed : ρ) :
    (store.update ns (changeFirst (.byId id) fun _ => Records.stored id next changed)).Has ns id next
      changed := by
  obtain ⟨front, back, strangers, others, held⟩ := has
  refine ⟨front, back, strangers, others, ?_⟩
  rw [documents_update_self _ _ rfl, held, changeFirst_append strangers, changeFirst,
    if_pos (by simp)]

/-- A replacement takes place if the version is the one expected. -/
theorem replaceOne_of_has (has : store.Has ns id version record) (next : Int64) (changed : ρ) :
    (store.replaceOne ns (.guard id (.int64 version)) (Records.stored id next changed)).1 = 1 ∧
      (store.replaceOne ns (.guard id (.int64 version)) (Records.stored id next changed)).2.Has ns id
        next changed := by
  rw [replaceOne_eq_of_has has]
  exact ⟨rfl, has_update has next changed⟩

/-- A replacement that expects another version changes nothing. -/
theorem replaceOne_of_has_of_ne (has : store.Has ns id version record) {previous : Bson}
    (stale : previous ≠ .int64 version) (document : Document) :
    store.replaceOne ns (.guard id previous) document = (0, store) := by
  obtain ⟨front, back, strangers, others, held⟩ := has
  have refused : (Filter.guard id previous).accepts (Records.stored id version record) = false := by
    have differ : (Bson.int64 version).same previous = false := by
      rw [Bool.eq_false_iff]
      intro same
      exact stale (Bson.eq_of_int64_same same)
    simp [Filter.guard, Filter.accepts, Filter.also, Condition.holds, valueMatches, differ]
  have unmet : (store.documents ns).any (Filter.guard id previous).accepts = false := by
    rw [List.any_eq_false, held]
    intro document member
    rcases List.mem_append.mp member with before | here
    · simp [guard_unmet (strangers document before)]
    · rcases List.mem_cons.mp here with rfl | after
      · simp [refused]
      · simp [guard_unmet (others document after)]
  rw [replaceOne, unmet]
  rfl

theorem deleteOne_of_has (has : store.Has ns id version record) :
    (store.deleteOne ns (.byId id)).1 = 1 ∧ (store.deleteOne ns (.byId id)).2.Lacks ns id := by
  obtain ⟨front, back, strangers, others, held⟩ := has
  have met : (store.documents ns).any (Filter.byId id).accepts = true := by
    simp [held]
  constructor
  · rw [deleteOne, if_pos met]
  · have unmet : ∀ document ∈ front, ¬ (Filter.byId id).accepts document = true :=
      fun document member => by simp [strangers document member]
    rw [Lacks, documents_deleteOne, held, List.eraseP_append_right _ unmet,
      List.eraseP_cons_of_pos (by simp)]
    intro document member
    rcases List.mem_append.mp member with before | after
    · exact strangers document before
    · exact others document after

/-- An edit of a membership list that takes place leaves the edited record. -/
theorem editMembership_of_has (has : store.Has ns id version record) {membership : Membership}
    {field : String} {element : Bson} {next : Int64} {changed : ρ}
    (edit : (Records.stored id version record).withMembership membership field element =
      some (Records.stored id next changed)) :
    (store.editMembership ns id membership field element).1 = .ok () ∧
      (store.editMembership ns id membership field element).2.Has ns id next changed := by
  have found := findOne_of_has has
  obtain ⟨front, back, strangers, others, held⟩ := has
  simp only [editMembership, found, edit, true_and]
  refine ⟨front, back, strangers, others, ?_⟩
  rw [documents_update_self _ _ rfl, held, changeFirst_append strangers]
  simp [changeFirst]

/-- A second document with the key is refused. -/
theorem insertOne_of_has (has : store.Has ns id version record) (spare : ObjectId) (next : Int64)
    (added : ρ) :
    (∃ error, (store.insertOne spare ns (Records.stored id next added)).1 = .error error) ∧
      (store.insertOne spare ns (Records.stored id next added)).2.Has ns id version record := by
  obtain ⟨front, back, strangers, others, held⟩ := has
  have taken : ((store.opened ns).documents ns).any (holdsKey (.string id)) = true := by
    simp [held, holdsKey]
  have keyed : keyed spare (Records.stored id next added) =
      (.string id, Records.stored id next added) := by
    simp [Store.keyed]
  unfold insertOne
  simp only [keyed, taken, if_true]
  exact ⟨⟨_, rfl⟩, front, back, strangers, others, (documents_opened store ns ns).trans held⟩

/-! ### A record that is not there -/

theorem findOne_of_lacks (lacks : store.Lacks ns id) : store.findOne ns (.byId id) = none := by
  rw [findOne, List.find?_eq_none]
  intro document member
  simp [lacks document member]

theorem count_of_lacks (lacks : store.Lacks ns id) : store.count ns (.byId id) = 0 :=
  List.countP_eq_zero.mpr fun document member => by simp [lacks document member]

theorem replaceOne_of_lacks (lacks : store.Lacks ns id) (previous : Bson) (document : Document) :
    store.replaceOne ns (.guard id previous) document = (0, store) := by
  have unmet : (store.documents ns).any (Filter.guard id previous).accepts = false := by
    rw [List.any_eq_false]
    intro document member
    simp [guard_unmet (lacks document member)]
  rw [replaceOne, unmet]
  rfl

theorem deleteOne_of_lacks (lacks : store.Lacks ns id) :
    store.deleteOne ns (.byId id) = (0, store) := by
  have unmet : (store.documents ns).any (Filter.byId id).accepts = false := by
    rw [List.any_eq_false]
    intro document member
    simp [lacks document member]
  rw [deleteOne, unmet]
  rfl

/-- A document with a key that nobody answers to is accepted, and comes last. -/
theorem documents_insertOne_of_lacks (lacks : store.Lacks ns id) (spare : ObjectId)
    (version : Int64) (record : ρ) :
    (store.insertOne spare ns (Records.stored id version record)).1 = .ok (.string id) ∧
      (store.insertOne spare ns (Records.stored id version record)).2.documents ns =
        store.documents ns ++ [Records.stored id version record] := by
  have free : ((store.opened ns).documents ns).any (holdsKey (.string id)) = false := by
    rw [List.any_eq_false, documents_opened]
    intro document member taken
    have answers := byId_accepts_of_holdsKey taken
    rw [lacks document member] at answers
    cases answers
  have keyed : keyed spare (Records.stored id version record) =
      (.string id, Records.stored id version record) := by
    simp [Store.keyed]
  have accepted : (store.insertOne spare ns (Records.stored id version record)).1 =
      .ok (.string id) := by
    unfold insertOne
    simp only [keyed, free, Bool.false_eq_true, if_false]
  refine ⟨accepted, ?_⟩
  rw [documents_insertOne_of_ok accepted, keyed]

theorem insertOne_of_lacks (lacks : store.Lacks ns id) (spare : ObjectId) (version : Int64)
    (record : ρ) :
    (store.insertOne spare ns (Records.stored id version record)).1 = .ok (.string id) ∧
      (store.insertOne spare ns (Records.stored id version record)).2.Has ns id version record := by
  obtain ⟨accepted, last⟩ := documents_insertOne_of_lacks lacks spare version record
  refine ⟨accepted, store.documents ns, [], lacks, ?_, last⟩
  intro document member
  cases member

end Store

/-- The creation of a record inserts its document, at version 1. -/
theorem Records.run_create {ρ : Type} [Record ρ] {record : ρ} {ns : Namespace}
    (placed : Record.place record = .ok ns) (spare : ObjectId) (store : Store) :
    (Records.create record).run (Store.respond spare) store =
      ((store.insertOne spare ns (Records.stored (Record.id record) 1 record)).1.map fun _ => (),
        (store.insertOne spare ns (Records.stored (Record.id record) 1 record)).2) := by
  unfold Records.create
  rw [placed]
  show Program.run (Store.respond spare) (.ask (⟨.create, .insertOne ns _⟩ : Call) _) store = _
  simp only [Program.run, Store.respond, Store.perform]
  generalize store.insertOne spare ns (Records.stored (Record.id record) 1 record) = reply
  obtain ⟨answer, store⟩ := reply
  cases answer <;> rfl

end Syllabus
