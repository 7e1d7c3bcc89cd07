/-
**Operations on records, told on entries.**

What the operations on records return, and what they leave, in a store whose namespaces hold records
only. A workflow is then told step by step, without looking at documents.

* `Store.Turned` — a store in which one namespace holds other entries, and all others are as before;
* `Records.yields_get`, `Records.yields_checkUnique` — reads leave the store;
* `Records.yields_create`, `Records.yields_update`, `Records.yields_delete`, `Records.yields_sync` —
  writes turn one namespace.
-/

import Syllabus.Proofs.Asks
import Syllabus.Proofs.Shelf
import Syllabus.Proofs.Update
import Syllabus.Proofs.Yields

namespace Syllabus

/-! ### Namespaces that are left alone -/

namespace Store

/-- Reading leaves the store. -/
theorem respond_of_reads {call : Call} (reads : call.Reads) (spare : ObjectId) (store : Store) :
    (store.respond spare call).2 = store := by
  obtain ⟨operation, request⟩ := call
  cases request <;> first | rfl | cases reads

/-- A write leaves the documents of other namespaces. -/
theorem documents_respond_of_ne (call : Call) {ns other : Namespace} (within : call.Within ns)
    (different : other ≠ ns) (spare : ObjectId) (store : Store) :
    (store.respond spare call).2.documents other = store.documents other := by
  obtain ⟨operation, request⟩ := call
  cases request with
  | insertOne written document =>
    cases within written rfl
    exact documents_insertOne_of_ne different store spare document
  | replaceOne written filter document =>
    cases within written rfl
    show (store.replaceOne ns filter document).2.documents other = _
    unfold replaceOne
    split
    · exact documents_update_of_ne different store _
    · rfl
  | deleteOne written filter =>
    cases within written rfl
    show (store.deleteOne ns filter).2.documents other = _
    unfold deleteOne
    split
    · exact documents_update_of_ne different store _
    · rfl
  | editMembership written id membership field element =>
    cases within written rfl
    show (store.editMembership ns id membership field element).2.documents other = _
    unfold editMembership
    split
    · rfl
    · split
      · rfl
      · exact documents_update_of_ne different store _
  | _ => rfl

/-- The store has turned into one in which a namespace holds these entries, and nothing else is
changed. -/
structure Turned {ρ : Type} [Record ρ] (old next : Store) (ns : Namespace) (entries : List (Entry ρ)) :
    Prop where
  shelf : next.Shelf ns entries
  elsewhere : ∀ other, other ≠ ns → next.documents other = old.documents other

end Store

namespace Program.Yields

variable {spare : ObjectId} {before lost : Store → Prop}

/-- Reading keeps what is known of the store. -/
theorem of_reads {ε α : Type} {program : StoreProgram ε α} (reads : program.Asks Call.Reads) :
    Yields (Store.respond spare) before program (fun _ => before) before := by
  induction reads with
  | done value => exact done fun _ holds => holds
  | fail error => exact fail fun _ holds => holds
  | ask call next here _ ih =>
    intro store holds
    have same := Store.respond_of_reads here spare store
    have rest := ih (store.respond spare call).1 store holds
    simp only [Program.run, same]
    exact rest

/-- A call that the store accepts. -/
theorem call {operation : Operation} {request : Request} {after : request.Answer → Store → Prop}
    (accepts : ∀ store, before store → ∃ answer,
      (store.respond spare ⟨operation, request⟩).1 = .ok answer ∧
        after answer (store.respond spare ⟨operation, request⟩).2) :
    Yields (Store.respond spare) before (StoreProgram.call operation request) after lost := by
  intro store known
  obtain ⟨answer, accepted, reached⟩ := accepts store known
  rw [StoreProgram.call, run_bind]
  simp only [Program.question, Program.run]
  rw [accepted]
  exact reached

end Program.Yields

/-- An entry after an update, which is counted. -/
def Entry.merged {ρ : Type} [Record ρ] (change : ρ) (entry : Entry ρ) : Entry ρ where
  version := entry.version + 1
  record := merge entry.record change

theorem Entry.key_merged {ρ : Type} [Record ρ] [LawfulRecord ρ] (change : ρ) (entry : Entry ρ) :
    (entry.merged change).key = entry.key :=
  LawfulRecord.id_merge entry.record change

namespace Records

open Program (Yields)

/-! ### Operations on the records of a namespace -/

section Operations

variable {ρ : Type} [Record ρ] {ns : Namespace} {entries : List (Entry ρ)} {spare : ObjectId}
  {before lost : Store → Prop}
  (shelf : ∀ store, before store → store.Shelf ns entries)

include shelf

/-- A record that is read is one of the entries, and only one that none has cannot be read. -/
theorem yields_get [LawfulRecord ρ] {template : ρ}
    (placed : ∀ found, Record.place template = .ok found → found = ns)
    (moves : ∀ record : ρ, Record.place record = .ok ns → Record.place template = .ok ns)
    (loses : (∀ entry ∈ entries, entry.key ≠ Record.id template) →
      ∀ store, before store → lost store) :
    Yields (Store.respond spare) before (get template)
      (fun record store => before store ∧ Record.place record = .ok ns ∧
        ∃ entry ∈ entries, entry.record = record ∧ entry.key = Record.id template) lost := by
  unfold get
  cases place : Record.place template with
  | error error =>
    refine .fail fun store known => loses (fun entry member => ?_) store known
    have impossible := moves entry.record ((shelf store known).placed entry member)
    rw [place] at impossible
    cases impossible
  | ok found =>
    cases placed found place
    show Yields _ _ (StoreProgram.call .get _ >>= _) _ _
    refine .bind (M := fun found store => before store ∧
      found = (entries.find? (·.key == Record.id template)).map Entry.document) ?_ fun found => ?_
    · refine .call fun store known => ⟨_, rfl, known, ?_⟩
      exact (shelf store known).findOne (Record.id template)
    · refine .given fun read => ?_
      cases here : entries.find? (·.key == Record.id template) with
      | none =>
        rw [here] at read
        cases read
        exact .fail (loses (by simpa using List.find?_eq_none.mp here))
      | some entry =>
        rw [here] at read
        cases read
        show Yields _ _ (Program.ofExcept (decode ns entry.document)) _ _
        rw [Entry.document, decode_stored]
        have member := List.mem_of_find?_eq_some here
        have keyed : entry.key = Record.id template := by simpa using List.find?_some here
        exact .done fun store known =>
          ⟨known, (shelf store known).placed entry member, entry, member, rfl, keyed⟩

/-- A record without further unique values passes the check exactly if no entry has its key. -/
theorem yields_checkUnique {record : ρ} (placed : Record.place record = .ok ns)
    (plain : Record.uniqueFields record = [])
    (loses : (∃ entry ∈ entries, entry.key = Record.id record) →
      ∀ store, before store → lost store) :
    Yields (Store.respond spare) before (checkUnique record)
      (fun _ store => before store ∧ ∀ entry ∈ entries, entry.key ≠ Record.id record) lost := by
  unfold checkUnique
  rw [placed, plain]
  show Yields _ _ (ensureUnused ns _ _ _ none >>= fun _ => .done ()) _ _
  refine .bind (M := fun _ store => before store ∧
    ∀ entry ∈ entries, entry.key ≠ Record.id record) ?_ fun _ => .done fun _ => id
  refine .bind (M := fun holders store => before store ∧
    (holders = 0 ↔ ∀ entry ∈ entries, entry.key ≠ Record.id record)) ?_ fun holders => ?_
  · refine .call fun store known => ⟨_, rfl, known, ?_⟩
    exact (shelf store known).count_eq_zero_iff (Record.id record)
  · refine .given fun fresh => ?_
    split
    · next some =>
      refine .fail (loses (Classical.byContradiction fun none => ?_))
      have free := fresh.mpr fun entry member same => none ⟨entry, member, same⟩
      exact Nat.ne_of_gt some free
    · next none =>
      exact .done fun store known => ⟨known, fresh.mp (Nat.le_zero.mp (Nat.not_lt.mp none))⟩

/-- A record with a new key comes last. -/
theorem yields_create {record : ρ} {after : Store → Prop} (placed : Record.place record = .ok ns)
    (fresh : ∀ entry ∈ entries, entry.key ≠ Record.id record)
    (turned : ∀ old next, before old → Store.Turned old next ns (entries ++ [⟨1, record⟩]) →
      after next) :
    Yields (Store.respond spare) before (create record) (fun _ => after) lost := by
  unfold create
  rw [placed]
  show Yields _ _ (StoreProgram.call .create _ >>= fun _ => pure ()) _ _
  refine .bind (M := fun _ => after) (.call fun store known => ?_) fun _ => .done fun _ => id
  obtain ⟨accepted, last⟩ := (shelf store known).insertOne_fresh spare placed fresh
  refine ⟨_, accepted, turned store _ known ⟨last, fun other different => ?_⟩⟩
  exact Store.documents_insertOne_of_ne different store spare _

/-- The deletion of a record that is there leaves the other entries. -/
theorem yields_delete {template : ρ} {after : Store → Prop} (placed : Record.place template = .ok ns)
    (there : ∃ entry ∈ entries, entry.key = Record.id template)
    (turned : ∀ old next, before old →
      Store.Turned old next ns (entries.filter (·.key != Record.id template)) → after next) :
    Yields (Store.respond spare) before (delete template) (fun _ => after) lost := by
  have counted : entries.any (·.key == Record.id template) = true := by
    obtain ⟨entry, member, keyed⟩ := there
    exact List.any_eq_true.mpr ⟨entry, member, by simpa using keyed⟩
  unfold delete
  rw [placed]
  show Yields _ _ (StoreProgram.call .delete _ >>= _) _ _
  refine .bind (M := fun deleted store => after store ∧ deleted = 1) (.call fun store known => ?_)
    fun deleted => .given fun once => ?_
  · obtain ⟨answer, left⟩ := (shelf store known).deleteOne (Record.id template)
    rw [if_pos counted] at answer
    refine ⟨_, rfl, turned store _ known ⟨left, fun other different => ?_⟩, answer⟩
    exact Store.documents_respond_of_ne ⟨.delete, .deleteOne ns (.byId (Record.id template))⟩
      (fun written target => (Option.some.inj target).symm) different spare store
  · subst once
    exact .done fun _ => id

/-- What is left of an update that has read an entry merges the change into it. -/
theorem yields_of_settling [LawfulRecord ρ] {α : Type} {change : ρ} {result : α} {after : Store → Prop}
    {entry : Entry ρ} (member : entry ∈ entries) (loses : ∀ store, before store → lost store)
    (turned : ∀ old next, before old → Store.Turned old next ns
      (Store.Shelf.changeAt entry.key (Entry.merged change) entries) → after next)
    {program : StoreProgram StoreError α}
    (settling : Settling ns entry.key entry.version (merge entry.record change) result program) :
    Yields (Store.respond spare) before program (fun _ => after) lost := by
  induction settling with
  | failed error => exact .fail loses
  | checking filter next _ ih =>
    refine .ask (M := fun _ => before) (fun store known => ?_) ih
    exact known
  | writing next ends =>
    refine .ask (M := fun answer store => after store ∧ answer = .ok 1)
      (fun store known => ?_) fun answer => .given fun replaced => ?_
    · have shelf := shelf store known
      have placed : Record.place (entry.merged change).record = .ok ns :=
        (place_merge entry.record change).trans (shelf.placed entry member)
      obtain ⟨once, changed⟩ := shelf.replaceOne member (entry.key_merged change) placed
      have written : Entry.document (entry.merged change) =
          stored entry.key (entry.version + 1) (merge entry.record change) := by
        rw [Entry.document, Entry.key_merged]
        rfl
      rw [written] at once changed
      refine ⟨turned store _ known ⟨changed, fun other different => ?_⟩, congrArg Except.ok once⟩
      exact Store.documents_respond_of_ne
        (writeOver ns entry.key entry.version (merge entry.record change))
        (fun written target => (Option.some.inj target).symm) different spare store
    · rw [ends, replaced]
      exact .done fun _ => id

/-- An update merges the change into the entry with its key. -/
theorem yields_update [LawfulRecord ρ] {change : ρ} {after : Store → Prop}
    (placed : ∀ found, Record.place change = .ok found → found = ns)
    (loses : ∀ store, before store → lost store)
    (turned : ∀ old next, before old → Store.Turned old next ns
      (Store.Shelf.changeAt (Record.id change) (Entry.merged change) entries) → after next) :
    Yields (Store.respond spare) before (update change) (fun _ => after) lost := by
  cases place : Record.place change with
  | error error =>
    unfold update
    rw [place]
    exact .fail loses
  | ok found =>
    cases placed found place
    obtain ⟨next, first, missing, settling⟩ := update_eq_ask place rfl
    rw [first]
    refine .ask (M := fun answer store => before store ∧
        answer = .ok ((entries.find? (·.key == Record.id change)).map Entry.document))
      (fun store known => ⟨known, ?_⟩) fun answer => .given fun read => ?_
    · exact congrArg Except.ok ((shelf store known).findOne (Record.id change))
    · rw [read]
      cases here : entries.find? (·.key == Record.id change) with
      | none =>
        rw [Option.map_none, missing]
        exact .fail loses
      | some entry =>
        have keyed : entry.key = Record.id change := by simpa using List.find?_some here
        have left := settling entry.version entry.record
        rw [← keyed] at left turned
        exact yields_of_settling shelf (List.mem_of_find?_eq_some here) loses turned left

end Operations

/-- An edit of the list of a record that is there. -/
theorem yields_sync {kind : RecordKind} (listing : Listing kind) {ns : Namespace}
    {entries : List (Entry kind.Carrier)} {spare : ObjectId} {before lost : Store → Prop}
    {after : Store → Prop} {parent : kind.Carrier} {id : String} {membership : Membership}
    {child : String} (shelf : ∀ store, before store → store.Shelf ns entries)
    (placed : Record.place parent = .ok ns) (named : Record.id parent = id)
    (there : ∃ entry ∈ entries, entry.key = id)
    (turned : ∀ old next, before old → Store.Turned old next ns
      (Store.Shelf.changeAt id (Entry.edited listing membership child) entries) → after next) :
    Yields (Store.respond spare) before (sync parent membership listing.field child)
      (fun _ => after) lost := by
  obtain ⟨entry, member, keyed⟩ := there
  unfold sync
  rw [placed, named]
  refine .call fun store known => ?_
  have edited := (shelf store known).editMembership listing membership child member
  rw [keyed] at edited
  obtain ⟨accepted, changed⟩ := edited
  refine ⟨(), accepted, turned store _ known ⟨changed, fun other different => ?_⟩⟩
  exact Store.documents_respond_of_ne
    ⟨.sync, .editMembership ns id membership listing.field (.string child)⟩
    (fun written target => (Option.some.inj target).symm) different spare store

end Records

end Syllabus
