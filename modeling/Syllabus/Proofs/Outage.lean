/-
**Programs at a store that fails now and then.**

Whether a call fails, and with what error, is up to whoever lists the failures of the calls to come; a
call that fails leaves the store. A statement on all such lists is one on every way in which the calls
of a program can fail.

* `Outage` — a store and the failures that are to come; `Outage.respond` — its answers;
* `Program.Leads` — what a run ends with and leaves, however its calls fail; sequenced by `Leads.bind`;
* `Store.AllOrNothing` — what was to be done was done, or the store is as it was;
* `Records.leads_get`, `Records.leads_create`, `Records.leads_update`, `Records.leads_delete`,
  `Records.leads_sync` — the operations on records do all or nothing.
-/

import Syllabus.Proofs.Regular

namespace Syllabus

/-- A store whose calls may fail: for each call to come the error that it fails with, or none. Calls
beyond the list do not fail. -/
structure Outage where
  faults : List (Option StoreError)
  store : Store

/-- A call fails without touching the store, or is answered as the store does. -/
def Outage.respond (spare : ObjectId) (call : Call) (outage : Outage) : call.Answer × Outage :=
  match outage.faults.headD none with
  | some error => (.error error, ⟨outage.faults.tail, outage.store⟩)
  | none =>
    let (answer, store) := outage.store.respond spare call
    (answer, ⟨outage.faults.tail, store⟩)

/-- Whatever was done was done as a whole: a call or program that fails leaves the store. -/
def Store.AllOrNothing {ε α : Type} (store : Store) (after : α → Store → Prop) :
    Except ε α → Store → Prop
  | .ok value, next => after value next
  | .error _, next => next = store

/-- As before, for a call that answers how many documents it wrote: none is nothing done. -/
def Store.CountOrNothing {ε : Type} (store : Store) (after : Store → Prop) :
    Except ε Nat → Store → Prop
  | .ok (_ + 1), next => after next
  | _, next => next = store

namespace Program

variable {ε ε' α β : Type}

/-- However the calls of the program fail, a run on the store ends so, with the store that it leaves. -/
def Leads (spare : ObjectId) (store : Store) (program : StoreProgram ε α)
    (ends : Except ε α → Store → Prop) : Prop :=
  ∀ faults, ends (program.run (Outage.respond spare) ⟨faults, store⟩).1
    (program.run (Outage.respond spare) ⟨faults, store⟩).2.store

namespace Leads

variable {spare : ObjectId} {store : Store} {ends : Except ε α → Store → Prop}

theorem done {value : α} (holds : ends (.ok value) store) :
    Leads spare store (.done value) ends :=
  fun _ => holds

theorem fail {error : ε} (holds : ends (.error error) store) :
    Leads spare store (.fail error) ends :=
  fun _ => holds

/-- A call fails, or it is answered. -/
theorem ask {call : Call} {next : call.Answer → StoreProgram ε α}
    (fails : ∀ error, Leads spare store (next (.error error)) ends)
    (answers : Leads spare (store.respond spare call).2 (next (store.respond spare call).1) ends) :
    Leads spare store (.ask call next) ends := by
  intro faults
  simp only [run, Outage.respond]
  cases faults.headD none with
  | some error => exact fails error faults.tail
  | none => exact answers faults.tail

theorem mono {ends' : Except ε α → Store → Prop} {program : StoreProgram ε α}
    (leads : Leads spare store program ends)
    (weaker : ∀ result next, ends result next → ends' result next) :
    Leads spare store program ends' :=
  fun faults => weaker _ _ (leads faults)

theorem bind {program : StoreProgram ε α} {next : α → StoreProgram ε β}
    {middle : Except ε α → Store → Prop} {ends : Except ε β → Store → Prop}
    (first : Leads spare store program middle)
    (rest : ∀ value reached, middle (.ok value) reached → Leads spare reached (next value) ends)
    (lost : ∀ error reached, middle (.error error) reached → ends (.error error) reached) :
    Leads spare store (program >>= next) ends := by
  intro faults
  have there := first faults
  rw [run_bind]
  generalize program.run (Outage.respond spare) ⟨faults, store⟩ = reached at there ⊢
  obtain ⟨result, outage⟩ := reached
  cases result with
  | ok value => exact rest value outage.store there outage.faults
  | error error => exact lost error outage.store there

theorem mapError {program : StoreProgram ε α} {change : ε → ε'} {ends : Except ε' α → Store → Prop}
    (leads : Leads spare store program fun result => ends (result.mapError change)) :
    Leads spare store (program.mapError change) ends := by
  intro faults
  rw [run_mapError]
  exact leads faults

/-- Reading leaves the store. -/
theorem of_reads {program : StoreProgram ε α} (reads : program.Asks Call.Reads) :
    Leads spare store program fun _ next => next = store := by
  induction reads with
  | done value => exact done rfl
  | fail error => exact fail rfl
  | ask call next here _ ih =>
    refine ask (fun error => ih (.error error)) ?_
    rw [Store.respond_of_reads here]
    exact ih _

/-- What is sequenced after something that did all or nothing. -/
theorem bind_all {program : StoreProgram ε α} {next : α → StoreProgram ε β}
    {after : α → Store → Prop} {ends : Except ε β → Store → Prop}
    (first : Leads spare store program (store.AllOrNothing after))
    (rest : ∀ value reached, after value reached → Leads spare reached (next value) ends)
    (lost : ∀ error, ends (.error error) store) : Leads spare store (program >>= next) ends :=
  first.bind rest fun error _ same => same ▸ lost error

/-- What was written, or failed for want of a document. -/
theorem bind_count {program : StoreProgram ε Nat} {after : Store → Prop} (error : ε) (value : α)
    (first : Leads spare store program (store.CountOrNothing after)) :
    Leads spare store (program >>= fun written => if written = 0 then .fail error else .done value)
      (store.AllOrNothing fun result next => result = value ∧ after next) := by
  refine first.bind (fun written reached there => ?_) fun _ _ same => same
  cases written with
  | zero => exact fail there
  | succ more => exact done ⟨rfl, there⟩

/-- One call. -/
theorem call {operation : Operation} {request : Request}
    {ends : Except StoreError request.Answer → Store → Prop} (fails : ∀ error, ends (.error error) store)
    (answers : ends (store.respond spare ⟨operation, request⟩).1
      (store.respond spare ⟨operation, request⟩).2) :
    Leads spare store (StoreProgram.call operation request) ends := by
  refine ask (fun error => fail (fails error)) ?_
  generalize store.respond spare ⟨operation, request⟩ = reply at answers ⊢
  obtain ⟨answer, next⟩ := reply
  cases answer with
  | error error => exact fail answers
  | ok value => exact done answers

end Leads

end Program

namespace Records

open Program (Leads)

variable {spare : ObjectId} {store : Store}

/-- A check of unique values leaves the store. -/
theorem leads_checkUnique {ρ : Type} [Record ρ] (record : ρ) :
    Leads spare store (checkUnique record) (store.AllOrNothing fun _ next => next = store) := by
  have reads : (checkUnique record).Asks Call.Reads := by
    cases place : Record.place record with
    | error error =>
      unfold checkUnique
      rw [place]
      exact .fail error
    | ok ns => exact (asks_checkUnique place).mono fun _ counts => counts.reads
  refine (Leads.of_reads reads).mono fun result next same => ?_
  cases result <;> exact same

variable {kind : RecordKind} {c : String}

/-- A replacement of what has a key, which it keeps, writes one document anew. -/
theorem leads_replaceOne (spare : ObjectId) (regular : store.Regular) (someone : kind ≠ .user)
    (id : String) (version : Int64) (record : kind.Carrier) (previous : Bson) :
    Leads spare store (StoreProgram.call .update
        (.replaceOne (kind.home c) (.guard id previous) (stored id version record)))
      (store.CountOrNothing fun next => ∃ before, ∃ replaced : kind.Carrier,
        before.Represents c replaced ∧ Record.id replaced = id ∧
        store.Patched next (kind.home c) (some before) (some (stored id version record))) := by
  refine .call (fun _ => rfl) ?_
  rw [Store.respond_replaceOne]
  rcases store.replaceOne_cases (kind.home c) (.guard id previous) (stored id version record) with
    missed | ⟨before, found, one, patched⟩
  · rw [missed]
    rfl
  · obtain ⟨replaced, represented⟩ :=
      regular kind someone c before (List.mem_of_find?_eq_some found)
    have named : Record.id replaced = id := represented.id_eq_of_guard (List.find?_some found)
    rw [replacement_stored (named ▸ represented.keyed)] at patched
    rw [one]
    exact ⟨before, replaced, represented, named, patched⟩

section Placed

variable (kind) {template : kind.Carrier} (placed : ∀ ns, Record.place template = .ok ns → ns = kind.home c)
  (regular : store.Regular) (someone : kind ≠ .user)

include placed

/-- A record that is created is added, at version 1. -/
theorem leads_create : Leads spare store (create template) (store.AllOrNothing fun _ next =>
    Record.place template = .ok (kind.home c) ∧
    store.Patched next (kind.home c) none (some (stored (Record.id template) 1 template))) := by
  unfold create
  cases place : Record.place template with
  | error error => exact .fail rfl
  | ok ns =>
    cases placed ns place
    have inserts : Leads spare store
        (StoreProgram.call .create (.insertOne (kind.home c) (stored (Record.id template) 1 template)))
        (store.AllOrNothing fun _ next => store.Patched next (kind.home c) none
          (some (stored (Record.id template) 1 template))) := by
      refine .call (fun _ => rfl) ?_
      rw [Store.respond_insertOne]
      rcases store.insertOne_cases spare (kind.home c) (get?_stored_id (Record.id template) 1 template)
        with ⟨error, refused⟩ | ⟨accepted, patched⟩
      · rw [refused]
        rfl
      · rw [accepted]
        exact patched
    exact inserts.bind_all (fun _ _ patched => .done ⟨rfl, patched⟩) fun _ => rfl

/-- A record that is deleted is removed. -/
theorem leads_delete : Leads spare store (delete template) (store.AllOrNothing fun _ next =>
    ∃ document, store.findOne (kind.home c) (.byId (Record.id template)) = some document ∧
      store.Patched next (kind.home c) (some document) none) := by
  unfold delete
  cases place : Record.place template with
  | error error => exact .fail rfl
  | ok ns =>
    cases placed ns place
    have deletes : Leads spare store
        (StoreProgram.call .delete (.deleteOne (kind.home c) (.byId (Record.id template))))
        (store.CountOrNothing fun next => ∃ document,
          store.findOne (kind.home c) (.byId (Record.id template)) = some document ∧
          store.Patched next (kind.home c) (some document) none) := by
      refine .call (fun _ => rfl) ?_
      rw [Store.respond_deleteOne]
      rcases store.deleteOne_cases (kind.home c) (.byId (Record.id template)) with
        missed | ⟨document, found, one, patched⟩
      · rw [missed]
        rfl
      · rw [one]
        exact ⟨document, found, patched⟩
    exact (deletes.bind_count _ ()).mono fun result next there => by
      cases result with
      | error error => exact there
      | ok done => exact there.2

include regular someone

/-- A record that is read is represented in the store. -/
theorem leads_get : Leads spare store (get template) (store.AllOrNothing fun record next =>
    next = store ∧ Record.place template = .ok (kind.home c) ∧ Record.id record = Record.id template ∧
      ∃ document, store.findOne (kind.home c) (.byId (Record.id template)) = some document ∧
        document.Represents c record) := by
  unfold get
  cases place : Record.place template with
  | error error => exact .fail rfl
  | ok ns =>
    cases placed ns place
    have finds : Leads spare store
        (StoreProgram.call .get (.findOne (kind.home c) (.byId (Record.id template))))
        (store.AllOrNothing fun found next => next = store ∧
          found = store.findOne (kind.home c) (.byId (Record.id template))) :=
      .call (fun _ => rfl) ⟨rfl, rfl⟩
    refine finds.bind_all (fun found next ⟨same, read⟩ => ?_) fun _ => rfl
    subst same
    cases found with
    | none => exact .fail rfl
    | some document =>
      obtain ⟨record, represents, named⟩ := regular.of_findOne someone read.symm
      show Leads _ _ (Program.ofExcept (decode (kind.home c) document)) _
      rw [represents.decode_eq]
      exact .done ⟨rfl, rfl, named, document, read.symm, represents⟩

/-- An update writes one document anew. It need not be the one that was read, if others have its key. -/
theorem leads_update : Leads spare store (update template) (store.AllOrNothing fun record next =>
    ∃ before after, ∃ replaced : kind.Carrier, before.Represents c replaced ∧
      Record.id replaced = Record.id template ∧ after.Represents c record ∧
      Record.id record = Record.id template ∧
      store.Patched next (kind.home c) (some before) (some after)) := by
  unfold update
  cases place : Record.place template with
  | error error => exact .fail rfl
  | ok ns =>
    cases placed ns place
    have finds : Leads spare store
        (StoreProgram.call .update (.findOne (kind.home c) (.byId (Record.id template))))
        (store.AllOrNothing fun found next => next = store ∧
          found = store.findOne (kind.home c) (.byId (Record.id template))) :=
      .call (fun _ => rfl) ⟨rfl, rfl⟩
    refine finds.bind_all (fun found next ⟨same, read⟩ => ?_) fun _ => rfl
    rw [same]
    cases found with
    | none => exact .fail rfl
    | some document =>
      obtain ⟨existing, represents, named⟩ := regular.of_findOne someone read.symm
      show Leads _ _ (Program.ofExcept (decode (kind.home c) document) >>= _) _
      rw [represents.decode_eq]
      have reads := (asks_ensureAllUnused (kind.home c) (some (Record.id template))
        (introduced existing (merge existing template))).mono fun _ counts => counts.reads
      refine (Leads.of_reads reads).bind (fun _ reached same => ?_) fun _ _ => id
      rw [same]
      generalize (document.get? versionKey).getD .null = previous
      have written := named ▸ represents.merged template (versionNumber previous + 1)
      refine ((leads_replaceOne spare regular someone _ _ _ previous).bind_count _
        (merge existing template)).mono fun result next there => ?_
      cases result with
      | error error => exact there
      | ok record =>
        obtain ⟨rfl, before, replaced, represented, same, patched⟩ := there
        exact ⟨before, _, replaced, represented, same, written,
          (LawfulRecord.id_merge ..).trans named, patched⟩

end Placed

/-- An edit of the list of a parent edits the document that is found, and so the record that it
represents. -/
theorem leads_sync (regular : store.Regular) (someone : kind ≠ .user) {parent : kind.Carrier}
    (placed : Record.place parent = .ok (kind.home c)) (listing : Listing kind)
    (membership : Membership) (child : String) :
    Leads spare store (sync parent membership listing.field child) (store.AllOrNothing fun _ next =>
      ∃ before after, ∃ record : kind.Carrier, ∃ ids,
        store.findOne (kind.home c) (.byId (Record.id parent)) = some before ∧
        before.withMembership membership listing.field (.string child) = some after ∧
        before.Represents c record ∧ after.Represents c (listing.withMembers ids record) ∧
        (membership = .push ∨ listing.StoresTexts before →
          ids = membership.edited child (listing.members record)) ∧
        store.Patched next (kind.home c) (some before) (some after)) := by
  unfold sync
  rw [placed]
  refine .call (fun _ => rfl) ?_
  rw [Store.respond_editMembership]
  rcases store.editMembership_cases (kind.home c) (Record.id parent) membership listing.field
    (.string child) with ⟨error, refused⟩ | ⟨before, after, found, made, done, patched⟩
  · rw [refused]
    rfl
  · obtain ⟨record, represents, _⟩ := regular.of_findOne someone found
    obtain ⟨ids, edited, plainly⟩ := represents.edited listing made
    rw [done]
    exact ⟨before, after, record, ids, found, made, represents, edited, plainly, patched⟩

end Records

end Syllabus
