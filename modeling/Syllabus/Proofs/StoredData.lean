/-
**Updates of stored data of any shape.**

The documents of a store need not come from the service: some may have fields that no record knows, lack
others, have any value for a version or a list for a key. An update selects its document twice, first by
the key, to read it, and later by the key and the version that was read, to write over it.

* `Document.Steady` — a version that answers to itself, and that one more change can be counted on;
* `Filter.guard_accepts_of_steady` — both selections then meet the same document;
* `Store.Rewritten`, `Store.rewritten_replaceOne` — one document was written anew, and nothing else;
* `Records.UpdateEnds`, `Records.update_ends` — the exits of an update;
* **`Records.updates_of_stored_data`** — when it takes which, and what it leaves.
-/

import Syllabus.Proofs.FilterDocument
import Syllabus.Proofs.Protected
import Syllabus.Proofs.ServerEdit

namespace Syllabus

/-- The version of the document, if it has one, is equal to itself, as every value is that holds no NaN;
and one more change can be counted on it. -/
structure Document.Steady (document : Document) : Prop where
  reflexive : ∀ version, document.get? versionKey = some version → version.same version = true
  countable : document.version < Int64.maxValue

/-- **The guard accepts the document that was read**, whatever there is for a version. -/
theorem Filter.guard_accepts_of_steady {id : String} {document : Document}
    (accepted : (Filter.byId id).accepts document = true) (steady : document.Steady) :
    (Filter.guard id document.readVersion).accepts document = true := by
  have answers : valueMatches (document.get? versionKey) document.readVersion = true := by
    rw [valueMatches_iff, Document.readVersion]
    cases held : document.get? versionKey with
    | none => exact .missing
    | some version => exact .equal version version (steady.reflexive version held)
  simp only [Filter.accepts, Filter.guard, Filter.also, List.all_append, Bool.and_eq_true]
  exact ⟨accepted, by simp [Condition.holds, answers]⟩

namespace Store

variable {store next : Store} {ns : Namespace} {id : String} {document : Document}

/-- Strangers in front of the first document that answers to a key. -/
theorem exists_front (found : store.findOne ns (.byId id) = some document) :
    ∃ front back, Strangers id front ∧ (Filter.byId id).accepts document = true ∧
      store.documents ns = front ++ document :: back := by
  obtain ⟨accepted, front, back, held, unmet⟩ := List.find?_eq_some_iff_append.mp found
  exact ⟨front, back, fun other member => by simpa using unmet other member, accepted, held⟩

theorem lacks_iff : store.Lacks ns id ↔ store.findOne ns (.byId id) = none := by
  simp [Lacks, Strangers, findOne, List.find?_eq_none]

/-- One document of a namespace was written anew, the first that answers to a key: it keeps its position
and its own key, and counts one more change. All others, and the namespaces that there are, stay as they
were. -/
structure Rewritten (store next : Store) (ns : Namespace) (id : String) (old new : Document) :
    Prop where
  first : ∃ front back, Strangers id front ∧ (Filter.byId id).accepts old = true ∧
    store.documents ns = front ++ old :: back ∧ next.documents ns = front ++ new :: back
  key : new.get? idKey = old.get? idKey
  counted : ∃ version, new.get? versionKey = some (.int64 version) ∧
    version.toInt = old.version.toInt + 1
  elsewhere : ∀ other, other ≠ ns → next.documents other = store.documents other
  namespaces : next.partitions.map Prod.fst = store.partitions.map Prod.fst

/-- **A guarded write goes to the document that was read**, and to no other. -/
theorem rewritten_replaceOne {ρ : Type} [Record ρ]
    (found : store.findOne ns (.byId id) = some document) (steady : document.Steady) (record : ρ) :
    let written := Records.stored id (document.version + 1) record
    let reply := store.replaceOne ns (.guard id document.readVersion) written
    reply.1 = 1 ∧ store.Rewritten reply.2 ns id document (replacement document written) := by
  intro written reply
  obtain ⟨front, back, strangers, accepted, held⟩ := exists_front found
  have met := Filter.guard_accepts_of_steady accepted steady
  have unmet : ∀ other ∈ front, (Filter.guard id document.readVersion).accepts other = false :=
    fun other member => guard_unmet (strangers other member) _
  have some : (store.documents ns).any (Filter.guard id document.readVersion).accepts = true := by
    simp [held, met]
  have left : changeFirst (.guard id document.readVersion) (replacement · written)
      (store.documents ns) = front ++ replacement document written :: back := by
    rw [held, changeFirst_append unmet, changeFirst, if_pos met]
  obtain ⟨key, keyed, put⟩ := replacement_eq_of_byId accepted written
  simp only [reply, replaceOne, if_pos some]
  refine ⟨trivial, ⟨front, back, strangers, accepted, held, ?_⟩, ?_, ⟨document.version + 1, ?_, ?_⟩,
    fun other different => documents_update_of_ne different store _, fst_updateIn ns _ _⟩
  · rw [documents_update_self _ _ rfl, left]
  · rw [put, Document.get?_insert_self, keyed]
  · rw [put, Document.get?_insert_of_ne (by decide), Records.get?_stored_version]
  · exact toInt_succ_of_lt steady.countable

end Store

namespace Records

variable {store next : Store} {ns : Namespace} {spare : ObjectId}

/-- The exits of an update of a store that nobody else is at. Only the last one leaves another store. -/
inductive UpdateEnds {kind : RecordKind} (change : kind.Carrier) (ns : Namespace) (store : Store) :
    Except StoreError kind.Carrier → Store → Prop
  | unknown : store.Lacks ns (Record.id change) →
      UpdateEnds change ns store (.error (.notFound ns (Record.id change))) store
  | unreadable (document : Document) (fault : Fault) :
      store.findOne ns (.byId (Record.id change)) = some document →
      (Record.ofDocument document : Except Fault kind.Carrier) = .error fault →
      UpdateEnds change ns store (.error (.decode ns (faultText fault))) store
  | taken (document : Document) (existing : kind.Carrier) (field value : String) :
      store.findOne ns (.byId (Record.id change)) = some document →
      Record.ofDocument document = .ok existing →
      store.clash? ns (some (Record.id change)) (introduced existing (merge existing change)) =
        some (field, value) →
      UpdateEnds change ns store (.error (.conflict field value)) store
  | written (document written : Document) (existing : kind.Carrier) (next : Store) :
      store.findOne ns (.byId (Record.id change)) = some document →
      Record.ofDocument document = .ok existing →
      store.clash? ns (some (Record.id change)) (introduced existing (merge existing change)) = none →
      store.Rewritten next ns (Record.id change) document written →
      Record.ofDocument written = .ok (merge existing change) →
      UpdateEnds change ns store (.ok (merge existing change)) next

section

variable {kind : RecordKind} {change : kind.Carrier} {answer : Except StoreError kind.Carrier}

/-- **An update takes one of these exits.** The write meets the document that was read, so there is none
for a version that was overwritten. -/
theorem update_ends (placed : Record.place change = .ok ns)
    (steady : ∀ document, store.findOne ns (.byId (Record.id change)) = some document →
      document.Steady)
    (ran : (update change).run (Store.respond spare) store = (answer, next)) :
    UpdateEnds change ns store answer next := by
  rw [run_update placed] at ran
  cases found : store.findOne ns (.byId (Record.id change)) with
  | none =>
    rw [found] at ran
    cases ran
    exact .unknown (Store.lacks_iff.mpr found)
  | some document =>
    simp only [found] at ran
    cases read : (Record.ofDocument document : Except Fault kind.Carrier) with
    | error fault =>
      rw [read] at ran
      cases ran
      exact .unreadable document fault found read
    | ok existing =>
      simp only [read] at ran
      cases clash : store.clash? ns (some (Record.id change))
          (introduced existing (merge existing change)) with
      | some claim =>
        rw [clash] at ran
        cases ran
        exact .taken document existing _ _ found read clash
      | none =>
        obtain ⟨once, rewritten⟩ :=
          Store.rewritten_replaceOne found (steady document found) (merge existing change)
        simp only [clash, once, Nat.one_ne_zero, if_false] at ran
        cases ran
        obtain ⟨key, _, put⟩ := Store.replacement_eq_of_byId (List.find?_some found)
          (stored (Record.id change) (document.version + 1) (merge existing change))
        refine .written document _ existing _ found read clash rewritten ?_
        rw [put]
        exact Record.ofDocument_insert_unknown LawfulRecord.id_unlisted key.intact_draft
          (ofDocument_stored ..)

namespace UpdateEnds

variable (ends : UpdateEnds change ns store answer next)

include ends

theorem eq_of_error {error : StoreError} (failed : answer = .error error) : next = store := by
  subst failed
  cases ends <;> rfl

theorem eq_notFound_iff {other : Namespace} {id : String} :
    answer = .error (.notFound other id) ↔
      other = ns ∧ id = Record.id change ∧ store.Lacks ns (Record.id change) := by
  constructor
  · rintro rfl
    cases ends with
    | unknown lacks => exact ⟨rfl, rfl, lacks⟩
  · rintro ⟨rfl, rfl, lacks⟩
    cases ends with
    | unknown _ => rfl
    | unreadable _ _ found | taken _ _ _ _ found | written _ _ _ _ found =>
      cases found.symm.trans (Store.lacks_iff.mp lacks)

theorem eq_decode_iff {other : Namespace} {detail : String} :
    answer = .error (.decode other detail) ↔
      other = ns ∧ ∃ document fault, store.findOne ns (.byId (Record.id change)) = some document ∧
        (Record.ofDocument document : Except Fault kind.Carrier) = .error fault ∧
        detail = faultText fault := by
  constructor
  · rintro rfl
    cases ends with
    | unreadable document fault found read => exact ⟨rfl, document, fault, found, read, rfl⟩
  · rintro ⟨rfl, document, fault, here, unread, rfl⟩
    cases ends with
    | unknown lacks => cases here.symm.trans (Store.lacks_iff.mp lacks)
    | unreadable _ _ found read =>
      cases found.symm.trans here
      cases read.symm.trans unread
      rfl
    | taken _ _ _ _ found read | written _ _ _ _ found read =>
      cases found.symm.trans here
      cases read.symm.trans unread

theorem ne_versionConflict (other : Namespace) (id : String) (version : Int64) :
    answer ≠ .error (.versionConflict other id version) := by
  rintro rfl
  cases ends

theorem eq_ok_iff {record : kind.Carrier} : answer = .ok record ↔
    ∃ document existing, store.findOne ns (.byId (Record.id change)) = some document ∧
      Record.ofDocument document = .ok existing ∧
      store.clash? ns (some (Record.id change)) (introduced existing (merge existing change)) =
        none ∧
      record = merge existing change := by
  constructor
  · rintro rfl
    cases ends with
    | written document _ existing _ found read clash =>
      exact ⟨document, existing, found, read, clash, rfl⟩
  · rintro ⟨document, existing, here, decoded, free, rfl⟩
    cases ends with
    | unknown lacks => cases here.symm.trans (Store.lacks_iff.mp lacks)
    | unreadable _ _ found read =>
      cases found.symm.trans here
      cases read.symm.trans decoded
    | taken _ _ _ _ found read clash =>
      cases found.symm.trans here
      cases read.symm.trans decoded
      cases clash.symm.trans free
    | written _ _ _ _ found read =>
      cases found.symm.trans here
      cases read.symm.trans decoded
      rfl

theorem rewritten_of_ok {record : kind.Carrier} (succeeded : answer = .ok record) :
    ∃ document written, store.findOne ns (.byId (Record.id change)) = some document ∧
      store.Rewritten next ns (Record.id change) document written ∧
      Record.ofDocument written = .ok record := by
  subst succeeded
  cases ends with
  | written document written _ _ found _ _ rewritten reads =>
    exact ⟨document, written, found, rewritten, reads⟩

end UpdateEnds

/-- **Updates of stored data of any shape.** Nobody else is at the store, and the first document that
answers to the key of the record, if there is one, has a steady version; whatever else it has or lacks, and
whatever other documents there are. An update that fails leaves the store. It reports an unknown record
exactly if no document answers to the key, a document that does not decode exactly if the first one does
not, and never a version that was overwritten. It succeeds exactly if this one decodes and no other has a
value that the update introduces. It then returns the stored record with the update merged into it; to
this the document, which was written anew, decodes, and nothing else is changed. -/
theorem updates_of_stored_data (placed : Record.place change = .ok ns)
    (steady : ∀ document, store.findOne ns (.byId (Record.id change)) = some document →
      document.Steady)
    (ran : (update change).run (Store.respond spare) store = (answer, next)) :
    (∀ error, answer = .error error → next = store) ∧
    (∀ other id, answer = .error (.notFound other id) ↔
      other = ns ∧ id = Record.id change ∧ store.Lacks ns (Record.id change)) ∧
    (∀ other detail, answer = .error (.decode other detail) ↔
      other = ns ∧ ∃ document fault, store.findOne ns (.byId (Record.id change)) = some document ∧
        (Record.ofDocument document : Except Fault kind.Carrier) = .error fault ∧
        detail = faultText fault) ∧
    (∀ other id version, answer ≠ .error (.versionConflict other id version)) ∧
    (∀ record, answer = .ok record ↔
      ∃ document existing, store.findOne ns (.byId (Record.id change)) = some document ∧
        Record.ofDocument document = .ok existing ∧
        store.clash? ns (some (Record.id change)) (introduced existing (merge existing change)) =
          none ∧
        record = merge existing change) ∧
    ∀ record, answer = .ok record →
      ∃ document written, store.findOne ns (.byId (Record.id change)) = some document ∧
        store.Rewritten next ns (Record.id change) document written ∧
        Record.ofDocument written = .ok record := by
  have ends := update_ends placed steady ran
  exact ⟨fun _ => ends.eq_of_error, fun _ _ => ends.eq_notFound_iff, fun _ _ => ends.eq_decode_iff,
    ends.ne_versionConflict, fun _ => ends.eq_ok_iff, fun _ => ends.rewritten_of_ok⟩

end

end Records

/-- A user that some other program stored, with two names, an unknown field and a list for a version. -/
def User.imported : Document :=
  [(idKey, .array [.string "ann", .string "anna"]), ("email", .string "anna@school.org"),
    ("legacy", .bool true), (versionKey, .array [.string "v2", .null])]

/-- The imported user between two others, of which the second answers to her name too. -/
def Store.imported : Store :=
  ⟨[(usersAt, [[(idKey, .string "berta"), ("email", .string "berta@school.org")], User.imported,
    [(idKey, .string "anna"), (versionKey, .int64 7)]])]⟩

/-- An update of the imported user goes to her document, although a later one has her name alone. It keeps
both names and starts to count. -/
theorem Records.updates_of_stored_data_of_imported :
    let change : RecordKind.user.Carrier := { User.withId "anna" with phone := "5550100" }
    let updated : RecordKind.user.Carrier :=
      { User.blank with email := "anna@school.org", phone := "5550100" }
    let ran := (update change).run (Store.respond ⟨0⟩) Store.imported
    ran.1 = .ok updated ∧
      ∃ written, Store.imported.Rewritten ran.2 usersAt "anna" User.imported written ∧
        Record.ofDocument written = .ok updated := by
  intro change updated ran
  have found : Store.imported.findOne usersAt (.byId "anna") = some User.imported := by rfl
  have steady : ∀ document, Store.imported.findOne usersAt (.byId "anna") = some document →
      document.Steady := by
    intro document here
    cases found.symm.trans here
    refine ⟨fun version held => ?_, by decide⟩
    cases held
    rfl
  have placed : Record.place change = .ok usersAt := rfl
  obtain ⟨_, _, _, _, succeeds, leaves⟩ :=
    updates_of_stored_data placed steady (rfl : ran = (ran.1, ran.2))
  have success := (succeeds updated).mpr ⟨User.imported, _, found, rfl, rfl, rfl⟩
  obtain ⟨document, written, here, rewritten, reads⟩ := leaves updated success
  cases found.symm.trans here
  exact ⟨success, written, rewritten, reads⟩

end Syllabus
