/-
**No update is lost under the version guard.**

Clients update one record and edit its membership list at the same time, in any order of their calls.
The record is read in one call and written in another, so the version that was read is what keeps an
update from writing over the work of others.

* `Edit` — an update of the record, or an edit of its membership list, as a client's program
  (`Edit.program`) and as what it means for the record (`Edit.apply`);
* `Overwrote` — the calls of an update that wrote over exactly what it read;
* `Phase`, `Guarded` — how far a client is, and what holds of all clients and the store between two
  calls; `Guarded.quiet` and `Guarded.written` are the two ways in which a call keeps it;
* `Guarded.not_failed_sync`, `Guarded.written_of_sync` — an edit of the list never fails, and its one
  call is its write;
* **`no_lost_update`** — the updates that return, and the edits of the list, are all in the record, one
  after another in the order of their writes.
-/

import Syllabus.Proofs.Crowd
import Syllabus.Proofs.Listing
import Syllabus.Proofs.Update

namespace Syllabus

variable {kind : RecordKind} {ns : Namespace} {id : String}

/-- What a client does with the record. -/
inductive Edit (kind : RecordKind) (ns : Namespace) (id : String) where
  | update (change : Addressed kind ns id)
  | sync (listing : Listing kind) (parent : Addressed kind ns id) (membership : Membership)
      (child : String)

namespace Edit

/-- The calls of the client. An update returns the record that it wrote. -/
def program : Edit kind ns id → StoreProgram StoreError (Option kind.Carrier)
  | .update change => do
    let record ← Records.update change.record
    .done (some record)
  | .sync listing parent membership child => do
    Records.sync parent.record membership listing.field child
    .done none

/-- What the edit means for the record. -/
def apply : Edit kind ns id → kind.Carrier → kind.Carrier
  | .update change, record => merge record change.record
  | .sync listing _ membership child, record => listing.edited membership child record

/-- The call of an edit of the list. -/
theorem program_sync (listing : Listing kind) (parent : Addressed kind ns id)
    (membership : Membership) (child : String) :
    (Edit.sync listing parent membership child).program =
      .ask ⟨.sync, .editMembership ns id membership listing.field (.string child)⟩ fun answer =>
        (Program.ofExcept answer : StoreProgram StoreError Unit) >>= fun _ => .done none := by
  rw [program, Records.sync, parent.placed, parent.keyed]
  rfl

/-- An update reads its record first, and is settling from then on. -/
theorem program_update (change : Addressed kind ns id) :
    ∃ next : Except StoreError (Option Document) → StoreProgram StoreError (Option kind.Carrier),
      (Edit.update change).program = .ask ⟨.update, .findOne ns (.byId id)⟩ next ∧
      ∀ version (record : kind.Carrier),
        Records.Settling ns id version (merge record change.record)
          (some (merge record change.record))
          (next (.ok (some (Records.stored id version record)))) := by
  obtain ⟨rest, asked, _, settling⟩ := Records.update_eq_ask change.placed change.keyed
  refine ⟨fun answer => rest answer >>= fun record => .done (some record), ?_, ?_⟩
  · rw [program, asked]
    rfl
  · intro version record
    exact (settling version record).bind_done some

/-- A client has a call to make before it ends. -/
theorem program_eq_ask (edit : Edit kind ns id) : ∃ call next, edit.program = .ask call next := by
  cases edit with
  | update change =>
    obtain ⟨next, asked, _⟩ := program_update change
    exact ⟨⟨.update, .findOne ns (.byId id)⟩, next, asked⟩
  | sync listing parent membership child =>
    exact ⟨_, _, program_sync listing parent membership child⟩

/-- The edit is an update. -/
def isUpdate : Edit kind ns id → Bool
  | .update _ => true
  | .sync _ _ _ _ => false

/-- The record after the edits of these clients, one after another. -/
def sequel (edits : List (Edit kind ns id)) (record : kind.Carrier) (clients : List Nat) :
    kind.Carrier :=
  (clients.filterMap (edits[·]?)).foldl (fun record edit => edit.apply record) record

/-- The number of updates among the edits of these clients. -/
def updates (edits : List (Edit kind ns id)) (clients : List Nat) : Nat :=
  (clients.filterMap (edits[·]?)).countP isUpdate

end Edit

/-- The call edits a membership list. -/
def Request.editsList : Request → Bool
  | .editMembership _ _ _ _ _ => true
  | _ => false

/-- The number of edits of a list that changed the record. -/
def Crowd.listChanges {ε α : Type} (kind : RecordKind) (ns : Namespace) (id : String)
    (crowd : Crowd ε α) : Nat :=
  crowd.history.countP fun event => event.call.request.editsList &&
    decide (event.before.recordAt kind ns id ≠ event.after.recordAt kind ns id)

/-- The calls of a client whose update returned: it read the record at a version, made checks, and
wrote the merged record over that same document. -/
def Overwrote (ns : Namespace) (id : String) (client : Nat) (change result : kind.Carrier)
    (version : Int64) (calls : List Event) : Prop :=
  ∃ (record : kind.Carrier) (seen before after : Store) (checks : List Event),
    calls =
      ⟨client, ⟨.update, .findOne ns (.byId id)⟩, .ok (some (Records.stored id version record)),
        seen, seen⟩ :: checks ++
      [⟨client, Records.writeOver ns id version result, .ok (1 : Nat), before, after⟩] ∧
    (∀ check ∈ checks, check.call.Counts ns ∧ check.after = check.before) ∧
    before.findOne ns (.byId id) = some (Records.stored id version record) ∧
    after.findOne ns (.byId id) = some (Records.stored id (version + 1) result) ∧
    result = merge record change

/-- What the version guard promises of clients that edit a record: nothing that was written is
lost. -/
structure NoLostUpdate (created : kind.Carrier) (edits : List (Edit kind ns id))
    (crowd : Crowd StoreError (Option kind.Carrier)) : Prop where
  /-- The clients that returned are those whose one write took effect. -/
  mem_writers : ∀ client, client ∈ crowd.writers ↔ ∃ value, crowd.Returned client value
  nodup_writers : crowd.writers.Nodup
  /-- An update that returned wrote over exactly the document that it had read. -/
  overwrote : ∀ client change value, edits[client]? = some (.update change) →
    crowd.Returned client value → ∃ result version, value = some result ∧
      Overwrote ns id client change.record result version (crowd.callsOf client)
  /-- Of the updates that read the same version, at most one returned. -/
  unique : ∀ client other change change' result result' version,
    edits[client]? = some (.update change) → edits[other]? = some (.update change') →
    crowd.Returned client (some result) → crowd.Returned other (some result') →
    Overwrote ns id client change.record result version (crowd.callsOf client) →
    Overwrote ns id other change'.record result' version (crowd.callsOf other) → client = other
  /-- An edit of the list never fails. -/
  sync_never_fails : ∀ client listing parent membership child error,
    edits[client]? = some (.sync listing parent membership child) → ¬ crowd.Failed client error
  /-- Once its call was answered, an edit of the list is among those that were written. -/
  sync_written : ∀ client listing parent membership child,
    edits[client]? = some (.sync listing parent membership child) →
    crowd.callsOf client ≠ [] → client ∈ crowd.writers
  /-- A client that failed changed nothing. -/
  unchanged : ∀ client error, crowd.Failed client error →
    ∀ event ∈ crowd.callsOf client, event.after = event.before
  /-- The stored record has all edits that were written, in the order of their writes, and its
  version counts them. -/
  final : ∃ version : Int64,
    crowd.store.findOne ns (.byId id) =
      some (Records.stored id version (Edit.sequel edits created crowd.writers)) ∧
    version.toInt = 1 + Edit.updates edits crowd.writers + crowd.listChanges kind ns id

/-! ### Versions -/

namespace VersionGuard

/-- The version of a record after so many changes. -/
def versionAfter (changes : Nat) : Int64 :=
  Int64.ofNat (1 + changes)

/-- The most changes that a run may make, so that no two of its versions are equal. -/
def maxChanges : Nat := 2 ^ 63 - 2

theorem versionAfter_succ (changes : Nat) : versionAfter (changes + 1) = versionAfter changes + 1 := by
  rw [versionAfter, versionAfter, ← Nat.add_assoc, Int64.ofNat_add]
  rfl

theorem toInt_versionAfter {changes : Nat} (few : changes < maxChanges) :
    (versionAfter changes).toInt = 1 + changes := by
  have small : 1 + changes < 2 ^ 63 := by
    unfold maxChanges at few
    omega
  rw [versionAfter, Int64.toInt_ofNat_of_lt small]
  omega

theorem versionAfter_injective {first second : Nat} (few : first < maxChanges)
    (few' : second < maxChanges) (same : versionAfter first = versionAfter second) :
    first = second := by
  have counts := congrArg Int64.toInt same
  rw [toInt_versionAfter few, toInt_versionAfter few'] at counts
  omega

/-! ### How far a client is -/

/-- How far a client is, when the record has been changed so many times and is now this one. -/
inductive Phase (client changes : Nat) (current : kind.Carrier) (edit : Edit kind ns id)
    (program : StoreProgram StoreError (Option kind.Carrier)) (calls : List Event)
    (wrote : Prop) : Prop
  | waiting (start : program = edit.program) (silent : calls = []) (unwritten : ¬ wrote)
  /-- What was read is the record still, unless it was changed since. -/
  | reading (change : Addressed kind ns id) (asUpdate : edit = .update change) (earlier : Nat)
      (record : kind.Carrier) (seen : Store) (checks : List Event)
      (settling : Records.Settling ns id (versionAfter earlier) (merge record change.record)
        (some (merge record change.record)) program)
      (asked : calls = ⟨client, ⟨.update, .findOne ns (.byId id)⟩,
        .ok (some (Records.stored id (versionAfter earlier) record)), seen, seen⟩ :: checks)
      (quiet : ∀ check ∈ checks, check.call.Counts ns ∧ check.after = check.before)
      (past : earlier ≤ changes) (unchanged : earlier = changes → record = current)
      (unwritten : ¬ wrote)
  /-- Only an update can fail, and it has left the store alone. -/
  | failed (asUpdate : edit.isUpdate = true) (error : StoreError) (ended : program = .fail error)
      (quiet : ∀ call ∈ calls, call.after = call.before) (unwritten : ¬ wrote)
  | updated (change : Addressed kind ns id) (asUpdate : edit = .update change)
      (result : kind.Carrier) (earlier : Nat) (ended : program = .done (some result))
      (overwrote : Overwrote ns id client change.record result (versionAfter earlier) calls)
      (past : earlier < changes) (written : wrote)
  | synced (asSync : edit.isUpdate = false) (ended : program = .done none) (written : wrote)

namespace Phase

variable {client changes : Nat} {current : kind.Carrier} {edit : Edit kind ns id}
  {program : StoreProgram StoreError (Option kind.Carrier)} {calls : List Event} {wrote : Prop}

/-- A client is as far as it was when another client changed the record. -/
theorem later (phase : Phase client changes current edit program calls wrote) {more : Nat}
    {next : kind.Carrier} (grown : more = changes ∧ next = current ∨ changes < more) :
    Phase client more next edit program calls wrote := by
  cases phase with
  | waiting start silent unwritten => exact .waiting start silent unwritten
  | reading change asUpdate earlier record seen checks settling asked quiet past unchanged
      unwritten =>
    refine .reading change asUpdate earlier record seen checks settling asked quiet ?_ ?_ unwritten
    · rcases grown with ⟨same, _⟩ | further <;> omega
    · intro now
      rcases grown with ⟨same, still⟩ | further
      · rw [still]
        exact unchanged (now.trans same)
      · omega
  | failed asUpdate error ended quiet unwritten =>
    exact .failed asUpdate error ended quiet unwritten
  | updated change asUpdate result earlier ended overwrote past written =>
    refine .updated change asUpdate result earlier ended overwrote ?_ written
    rcases grown with ⟨same, _⟩ | further <;> omega
  | synced asSync ended written => exact .synced asSync ended written

end Phase

theorem version_eq_of_overwrote {client : Nat} {change change' result result' : kind.Carrier}
    {version version' : Int64} {calls : List Event}
    (first : Overwrote ns id client change result version calls)
    (second : Overwrote ns id client change' result' version' calls) : version = version' := by
  obtain ⟨record, _, _, _, _, asked, _⟩ := first
  obtain ⟨record', _, _, _, _, asked', _⟩ := second
  have heads := congrArg List.head? (asked.symm.trans asked')
  simp only [List.cons_append, List.head?_cons, Option.some.injEq, Event.mk.injEq, true_and,
    heq_eq_eq, Except.ok.injEq] at heads
  have counted := congrArg Document.version heads.1
  rwa [Records.version_stored, Records.version_stored] at counted

/-! ### What holds between two calls -/

/-- The number of changes that an edit of the record counts. -/
def changesOf (edit : Edit kind ns id) (current : kind.Carrier) : Nat :=
  if edit.isUpdate ∨ edit.apply current ≠ current then 1 else 0

/-- What holds of the clients and the store between two calls, after so many changes. -/
structure Guarded (created : kind.Carrier) (edits : List (Edit kind ns id)) (changes : Nat)
    (crowd : Crowd StoreError (Option kind.Carrier)) : Prop where
  has : crowd.store.Has ns id (versionAfter changes) (Edit.sequel edits created crowd.writers)
  counted : changes = Edit.updates edits crowd.writers + crowd.listChanges kind ns id
  few : changes ≤ crowd.writers.length
  nodup : crowd.writers.Nodup
  clients : crowd.programs.length = edits.length
  known : ∀ client ∈ crowd.writers, client < edits.length
  phases : ∀ client edit program, edits[client]? = some edit →
    crowd.programs[client]? = some program →
    Phase client changes (Edit.sequel edits created crowd.writers) edit program
      (crowd.callsOf client) (client ∈ crowd.writers)
  unique : ∀ client other change change' (result result' : kind.Carrier) version,
    edits[client]? = some (.update change) → edits[other]? = some (.update change') →
    client ∈ crowd.writers → other ∈ crowd.writers →
    Overwrote ns id client change.record result version (crowd.callsOf client) →
    Overwrote ns id other change'.record result' version (crowd.callsOf other) → client = other

namespace Guarded

variable {created : kind.Carrier} {edits : List (Edit kind ns id)} {changes : Nat}
  {crowd : Crowd StoreError (Option kind.Carrier)} {client : Nat}
  {edit : Edit kind ns id} {call : Call}
  {next : call.Answer → StoreProgram StoreError (Option kind.Carrier)}

/-- A client that has a call to make has not written yet. -/
theorem unwritten_of_asks (guarded : Guarded created edits changes crowd)
    (asks : crowd.programs[client]? = some (.ask call next)) (own : edits[client]? = some edit) :
    client ∉ crowd.writers := by
  cases guarded.phases client edit _ own asks with
  | waiting start silent unwritten => exact unwritten
  | reading _ _ _ _ _ _ _ _ _ _ _ unwritten => exact unwritten
  | failed _ _ _ _ unwritten => exact unwritten
  | updated _ _ _ _ ended => cases ended
  | synced _ ended => cases ended

/-- A call that leaves the store keeps what holds, if its client is in a phase afterwards. -/
theorem quiet (guarded : Guarded created edits changes crowd)
    (asks : crowd.programs[client]? = some (.ask call next)) (own : edits[client]? = some edit)
    {reply : call.Answer × Store} (still : reply.2 = crowd.store)
    (unlanded : call.request.landed reply.1 = false)
    (phase : Phase client changes (Edit.sequel edits created crowd.writers) edit (next reply.1)
      (crowd.callsOf client ++ [⟨client, call, reply.1, crowd.store, reply.2⟩])
      (client ∈ crowd.writers)) :
    Guarded created edits changes (crowd.answered client call next reply) where
  has := by
    rw [Crowd.writers_answered_of_not_landed _ _ _ unlanded, Crowd.store_answered, still]
    exact guarded.has
  counted := by
    rw [Crowd.writers_answered_of_not_landed _ _ _ unlanded, guarded.counted]
    simp [Crowd.listChanges, still]
  few := by
    rw [Crowd.writers_answered_of_not_landed _ _ _ unlanded]
    exact guarded.few
  nodup := by
    rw [Crowd.writers_answered_of_not_landed _ _ _ unlanded]
    exact guarded.nodup
  clients := (crowd.length_programs_answered next reply).trans guarded.clients
  known := by
    rw [Crowd.writers_answered_of_not_landed _ _ _ unlanded]
    exact guarded.known
  phases := by
    intro other othersEdit program mine running
    rw [Crowd.writers_answered_of_not_landed _ _ _ unlanded]
    by_cases same : other = client
    · subst same
      rw [Crowd.programs_answered_self _ _ _ asks] at running
      cases running
      cases own.symm.trans mine
      rw [Crowd.callsOf_answered_self]
      exact phase
    · rw [Crowd.programs_answered_of_ne _ _ _ same] at running
      rw [Crowd.callsOf_answered_of_ne _ _ _ same]
      exact guarded.phases other othersEdit program mine running
  unique := by
    intro first second change change' result result' version mine mine' wrote wrote'
    have unwritten := guarded.unwritten_of_asks asks own
    rw [Crowd.writers_answered_of_not_landed _ _ _ unlanded] at wrote wrote'
    rw [Crowd.callsOf_answered_of_ne _ _ _ (ne_of_mem_of_not_mem wrote unwritten),
      Crowd.callsOf_answered_of_ne _ _ _ (ne_of_mem_of_not_mem wrote' unwritten)]
    exact guarded.unique first second change change' result result' version mine mine' wrote wrote'

/-- An update that has written read an earlier version than the present one. -/
theorem version_ne_of_mem_writers (guarded : Guarded created edits changes crowd)
    (small : changes < maxChanges) {change : Addressed kind ns id} {result : kind.Carrier}
    {version : Int64} (own : edits[client]? = some (.update change))
    (wrote : client ∈ crowd.writers)
    (overwrote : Overwrote ns id client change.record result version (crowd.callsOf client)) :
    version ≠ versionAfter changes := by
  intro now
  have inRange := guarded.known client wrote
  rw [← guarded.clients] at inRange
  cases guarded.phases client _ _ own (List.getElem?_eq_getElem inRange) with
  | waiting _ _ unwritten => exact unwritten wrote
  | reading _ _ _ _ _ _ _ _ _ _ _ unwritten => exact unwritten wrote
  | failed _ _ _ _ unwritten => exact unwritten wrote
  | updated _ _ _ earlier _ same past =>
    have versions := (version_eq_of_overwrote same overwrote).trans now
    have equal := versionAfter_injective (Nat.lt_trans past small) small versions
    omega
  | synced asSync => cases asSync

/-- After a write of the present version, still no two updates have written over one version. -/
theorem unique_written (guarded : Guarded created edits changes crowd)
    (small : changes < maxChanges)
    (asks : crowd.programs[client]? = some (.ask call next)) (own : edits[client]? = some edit)
    {reply : call.Answer × Store} (landed : call.request.landed reply.1 = true)
    (fresh : ∀ change result version, edit = .update change →
      Overwrote ns id client change.record result version
        (crowd.callsOf client ++ [⟨client, call, reply.1, crowd.store, reply.2⟩]) →
      version = versionAfter changes)
    (first second : Nat) (change change' : Addressed kind ns id) (result result' : kind.Carrier)
    (version : Int64) (mine : edits[first]? = some (.update change))
    (mine' : edits[second]? = some (.update change'))
    (wrote : first ∈ (crowd.answered client call next reply).writers)
    (wrote' : second ∈ (crowd.answered client call next reply).writers)
    (calls : Overwrote ns id first change.record result version
      ((crowd.answered client call next reply).callsOf first))
    (calls' : Overwrote ns id second change'.record result' version
      ((crowd.answered client call next reply).callsOf second)) : first = second := by
  have unwritten := guarded.unwritten_of_asks asks own
  have othersCalls : ∀ other ∈ crowd.writers,
      (crowd.answered client call next reply).callsOf other = crowd.callsOf other :=
    fun other wrote =>
      Crowd.callsOf_answered_of_ne _ _ _ (ne_of_mem_of_not_mem wrote unwritten)
  rw [Crowd.writers_answered_of_landed _ _ _ landed] at wrote wrote'
  rcases List.mem_append.mp wrote with early | here <;>
    rcases List.mem_append.mp wrote' with early' | here'
  · rw [othersCalls first early] at calls
    rw [othersCalls second early'] at calls'
    exact guarded.unique first second change change' result result' version mine mine' early early'
      calls calls'
  · cases List.mem_singleton.mp here'
    rw [othersCalls first early] at calls
    rw [Crowd.callsOf_answered_self] at calls'
    have now := fresh change' result' version (Option.some.inj (own.symm.trans mine')) calls'
    exact absurd now (guarded.version_ne_of_mem_writers small mine early calls)
  · cases List.mem_singleton.mp here
    rw [othersCalls second early'] at calls'
    rw [Crowd.callsOf_answered_self] at calls
    have now := fresh change result version (Option.some.inj (own.symm.trans mine)) calls
    exact absurd now (guarded.version_ne_of_mem_writers small mine' early' calls')
  · rw [List.mem_singleton.mp here, List.mem_singleton.mp here']

/-- A write of the client's edit keeps what holds: the edit comes after the others. -/
theorem written (guarded : Guarded created edits changes crowd) (small : changes < maxChanges)
    (asks : crowd.programs[client]? = some (.ask call next)) (own : edits[client]? = some edit)
    {current : kind.Carrier} (now : Edit.sequel edits created crowd.writers = current)
    {reply : call.Answer × Store} (landed : call.request.landed reply.1 = true)
    (byKind : call.request.editsList = !edit.isUpdate)
    (has : reply.2.Has ns id (versionAfter (changes + changesOf edit current))
      (edit.apply current))
    (phase : Phase client (changes + changesOf edit current) (edit.apply current) edit
      (next reply.1) (crowd.callsOf client ++ [⟨client, call, reply.1, crowd.store, reply.2⟩]) True)
    (fresh : ∀ change result version, edit = .update change →
      Overwrote ns id client change.record result version
        (crowd.callsOf client ++ [⟨client, call, reply.1, crowd.store, reply.2⟩]) →
      version = versionAfter changes) :
    Guarded created edits (changes + changesOf edit current)
      (crowd.answered client call next reply) := by
  have unwritten := guarded.unwritten_of_asks asks own
  have writers : (crowd.answered client call next reply).writers = crowd.writers ++ [client] :=
    Crowd.writers_answered_of_landed crowd next reply landed
  have sequel : Edit.sequel edits created (crowd.writers ++ [client]) = edit.apply current := by
    simp [Edit.sequel, List.filterMap_append, own, ← now]
  have before := Store.recordAt_of_has guarded.has
  have after := Store.recordAt_of_has has
  have updates : Edit.updates edits (crowd.writers ++ [client]) =
      Edit.updates edits crowd.writers + if edit.isUpdate then 1 else 0 := by
    simp [Edit.updates, List.filterMap_append, own, List.countP_cons]
  have listed : (crowd.answered client call next reply).listChanges kind ns id =
      crowd.listChanges kind ns id +
        if edit.isUpdate = false ∧ edit.apply current ≠ current then 1 else 0 := by
    simp only [Crowd.listChanges, Crowd.history_answered, List.countP_append, List.countP_cons,
      List.countP_nil, byKind, before, after, now]
    by_cases same : edit.apply current = current
    · simp [same]
    · have changed : current ≠ edit.apply current := Ne.symm same
      cases edit.isUpdate <;> simp [same, changed]
  exact {
    has := by
      rw [writers, sequel]
      exact has
    counted := by
      have counted := guarded.counted
      rw [writers, updates, listed, changesOf]
      by_cases update : edit.isUpdate <;> by_cases same : edit.apply current = current <;>
        simp [update, same] <;> omega
    few := by
      have more : changesOf edit current ≤ 1 := by
        unfold changesOf
        split <;> omega
      rw [writers, List.length_append, List.length_singleton]
      have few := guarded.few
      omega
    nodup := by
      rw [writers]
      refine List.nodup_append.mpr ⟨guarded.nodup, by simp, ?_⟩
      intro earlier wrote last here
      rw [List.mem_singleton.mp here]
      exact ne_of_mem_of_not_mem wrote unwritten
    clients := (crowd.length_programs_answered next reply).trans guarded.clients
    known := by
      intro other wrote
      rw [writers] at wrote
      rcases List.mem_append.mp wrote with earlier | here
      · exact guarded.known other earlier
      · rw [List.mem_singleton.mp here]
        exact (List.getElem?_eq_some_iff.mp own).1
    phases := by
      intro other othersEdit program mine running
      rw [writers, sequel]
      by_cases same : other = client
      · subst same
        rw [Crowd.programs_answered_self _ _ _ asks] at running
        cases running
        cases own.symm.trans mine
        rw [Crowd.callsOf_answered_self]
        simpa using phase
      · rw [Crowd.programs_answered_of_ne _ _ _ same] at running
        rw [Crowd.callsOf_answered_of_ne _ _ _ same]
        have phase := guarded.phases other othersEdit program mine running
        have grown : changes + changesOf edit current = changes ∧ edit.apply current = current ∨
            changes < changes + changesOf edit current := by
          unfold changesOf
          split
          · exact .inr (Nat.lt_succ_self changes)
          · next same => exact .inl ⟨rfl, by simpa using (not_or.mp same).2⟩
        have still : other ∈ crowd.writers ++ [client] ↔ other ∈ crowd.writers := by
          simp [same]
        rw [still]
        rw [now] at phase
        exact phase.later grown
    unique := guarded.unique_written small asks own landed fresh }

/-! ### One call -/

/-- The first call of an update reads the record. -/
theorem step_read (guarded : Guarded created edits changes crowd) {change : Addressed kind ns id}
    (own : edits[client]? = some (.update change))
    (asks : crowd.programs[client]? = some (.ask call next)) (silent : crowd.callsOf client = [])
    (start : Program.ask call next = (Edit.update change).program) (spare : ObjectId) :
    Guarded created edits changes
      (crowd.answered client call next (crowd.store.respond spare call)) := by
  have unwritten := guarded.unwritten_of_asks asks own
  obtain ⟨rest, asked, settling⟩ := Edit.program_update change
  rw [asked] at start
  cases start
  have found := Store.findOne_of_has guarded.has
  have reply : crowd.store.respond spare ⟨.update, .findOne ns (.byId id)⟩ =
      (.ok (some (Records.stored id (versionAfter changes)
        (Edit.sequel edits created crowd.writers))), crowd.store) := by
    rw [← found]
    rfl
  rw [reply]
  refine guarded.quiet asks own rfl rfl ?_
  rw [silent]
  exact .reading change rfl changes _ crowd.store [] (settling _ _) rfl (by simp)
    (Nat.le_refl changes) (fun _ => rfl) unwritten

theorem versionAfter_changesOf_sync (listing : Listing kind) (parent : Addressed kind ns id)
    (membership : Membership) (child : String) (changes : Nat) (current : kind.Carrier) :
    versionAfter (changes + changesOf (Edit.sync listing parent membership child) current) =
      if membership.edited child (listing.members current) = listing.members current
        then versionAfter changes else versionAfter changes + 1 := by
  have same := listing.edited_eq_self_iff membership child current
  by_cases kept : membership.edited child (listing.members current) = listing.members current
  · simp [changesOf, Edit.isUpdate, Edit.apply, same.mpr kept, kept]
  · simp [changesOf, Edit.isUpdate, Edit.apply, mt same.mp kept, kept, versionAfter_succ]

/-- The one call of an edit of the list is its write. -/
theorem step_sync (guarded : Guarded created edits changes crowd) (small : changes < maxChanges)
    {listing : Listing kind} {parent : Addressed kind ns id} {membership : Membership}
    {child : String} (own : edits[client]? = some (.sync listing parent membership child))
    (asks : crowd.programs[client]? = some (.ask call next))
    (start : Program.ask call next = (Edit.sync listing parent membership child).program)
    (spare : ObjectId) :
    ∃ more, Guarded created edits more
      (crowd.answered client call next (crowd.store.respond spare call)) := by
  rw [Edit.program_sync] at start
  cases start
  obtain ⟨answered, has⟩ := Store.editMembership_of_has guarded.has
    (listing.withMembership_stored membership child id (versionAfter changes) _)
  rw [← versionAfter_changesOf_sync listing parent] at has
  generalize performed : crowd.store.editMembership ns id membership listing.field (.string child) =
    reply at answered has
  have responded : crowd.store.respond spare
      ⟨.sync, .editMembership ns id membership listing.field (.string child)⟩ = reply := performed
  obtain ⟨answer, store⟩ := reply
  cases answered
  rw [responded]
  refine ⟨_, guarded.written small asks own rfl rfl rfl has ?_ ?_⟩
  · exact .synced rfl rfl trivial
  · intro change result version asUpdate
    cases asUpdate

/-- A check leaves an update as far as it is. -/
theorem step_check (guarded : Guarded created edits changes crowd)
    {filter : Filter} {next : Except StoreError Nat → StoreProgram StoreError (Option kind.Carrier)}
    {change : Addressed kind ns id} (own : edits[client]? = some (.update change))
    (asks : crowd.programs[client]? = some (.ask ⟨.validate, .count ns filter⟩ next))
    {earlier : Nat} {record : kind.Carrier} {seen : Store} {checks : List Event}
    (settling : ∀ answer, Records.Settling ns id (versionAfter earlier)
      (merge record change.record) (some (merge record change.record)) (next answer))
    (asked : crowd.callsOf client = ⟨client, ⟨.update, .findOne ns (.byId id)⟩,
      .ok (some (Records.stored id (versionAfter earlier) record)), seen, seen⟩ :: checks)
    (quiet : ∀ check ∈ checks, check.call.Counts ns ∧ check.after = check.before)
    (past : earlier ≤ changes)
    (unchanged : earlier = changes → record = Edit.sequel edits created crowd.writers)
    (spare : ObjectId) :
    Guarded created edits changes (crowd.answered client ⟨.validate, .count ns filter⟩ next
      (crowd.store.respond spare ⟨.validate, .count ns filter⟩)) := by
  have unwritten := guarded.unwritten_of_asks asks own
  refine guarded.quiet asks own rfl rfl ?_
  rw [asked]
  refine .reading change rfl earlier record seen (checks ++ [_]) (settling _) rfl ?_ past unchanged
    unwritten
  intro check member
  rcases List.mem_append.mp member with before | here
  · exact quiet check before
  · rw [List.mem_singleton.mp here]
    exact ⟨⟨filter, rfl⟩, rfl⟩

/-- The write of an update takes effect if the record is the one that was read. -/
theorem step_overwrite (guarded : Guarded created edits changes crowd) (small : changes < maxChanges)
    {change : Addressed kind ns id} (own : edits[client]? = some (.update change))
    {record : kind.Carrier}
    {next : Except StoreError Nat → StoreProgram StoreError (Option kind.Carrier)}
    (asks : crowd.programs[client]? = some (.ask
      (Records.writeOver ns id (versionAfter changes) (merge record change.record)) next))
    (done : next (.ok 1) = .done (some (merge record change.record))) {seen : Store}
    {checks : List Event}
    (asked : crowd.callsOf client = ⟨client, ⟨.update, .findOne ns (.byId id)⟩,
      .ok (some (Records.stored id (versionAfter changes) record)), seen, seen⟩ :: checks)
    (quiet : ∀ check ∈ checks, check.call.Counts ns ∧ check.after = check.before)
    (unchanged : record = Edit.sequel edits created crowd.writers) (spare : ObjectId) :
    ∃ more, Guarded created edits more (crowd.answered client
      (Records.writeOver ns id (versionAfter changes) (merge record change.record)) next
      (crowd.store.respond spare
        (Records.writeOver ns id (versionAfter changes) (merge record change.record)))) := by
  obtain ⟨replaced, has⟩ := Store.replaceOne_of_has (unchanged ▸ guarded.has)
    (versionAfter changes + 1) (merge record change.record)
  have counted : changesOf (.update change) record = 1 := by
    simp [changesOf, Edit.isUpdate]
  rw [Store.respond_replaceOne]
  generalize crowd.store.replaceOne ns (.guard id (.int64 (versionAfter changes)))
    (Records.stored id (versionAfter changes + 1) (merge record change.record)) = reply at *
  obtain ⟨answer, store⟩ := reply
  cases replaced
  have overwrote : Overwrote ns id client change.record (merge record change.record)
      (versionAfter changes) (crowd.callsOf client ++ [⟨client,
        Records.writeOver ns id (versionAfter changes) (merge record change.record),
        .ok (1 : Nat), crowd.store, store⟩]) := by
    rw [asked]
    exact ⟨record, seen, _, _, checks, rfl, quiet,
      Store.findOne_of_has (unchanged ▸ guarded.has), Store.findOne_of_has has,
      rfl⟩
  refine ⟨_, guarded.written small asks own unchanged.symm rfl rfl ?_ ?_ ?_⟩
  · rw [counted, versionAfter_succ]
    exact has
  · rw [counted]
    exact .updated change rfl _ changes done overwrote (Nat.lt_succ_self changes) trivial
  · intro other result version same calls
    exact version_eq_of_overwrote calls overwrote

/-- The write of an update is refused if the record was changed since. -/
theorem step_refused (guarded : Guarded created edits changes crowd) {change : Addressed kind ns id}
    (own : edits[client]? = some (.update change)) {previous : Bson}
    (stale : previous ≠ .int64 (versionAfter changes)) {document : Document} {error : StoreError}
    {next : Except StoreError Nat → StoreProgram StoreError (Option kind.Carrier)}
    (asks : crowd.programs[client]? =
      some (.ask ⟨.update, .replaceOne ns (.guard id previous) document⟩ next))
    (refused : next (.ok 0) = .fail error)
    (quiet : ∀ call ∈ crowd.callsOf client, call.after = call.before) (spare : ObjectId) :
    Guarded created edits changes (crowd.answered client
      ⟨.update, .replaceOne ns (.guard id previous) document⟩ next
      (crowd.store.respond spare ⟨.update, .replaceOne ns (.guard id previous) document⟩)) := by
  have unwritten := guarded.unwritten_of_asks asks own
  rw [Store.respond_replaceOne, Store.replaceOne_of_has_of_ne guarded.has stale document]
  refine guarded.quiet asks own rfl rfl (.failed rfl error refused ?_ unwritten)
  intro call member
  rcases List.mem_append.mp member with before | here
  · exact quiet call before
  · rw [List.mem_singleton.mp here]

/-- **One turn keeps what holds**, while there are fewer changes than versions. -/
theorem step (guarded : Guarded created edits changes crowd) (few : crowd.writers.length < maxChanges)
    (turn : Turn) : ∃ more, Guarded created edits more (crowd.step turn) := by
  have small : changes < maxChanges := Nat.lt_of_le_of_lt guarded.few few
  rcases Crowd.step_cases crowd turn with same | ⟨call, next, asks, made⟩
  · rw [same]
    exact ⟨changes, guarded⟩
  rw [made]
  have inRange := (List.getElem?_eq_some_iff.mp asks).1
  rw [guarded.clients] at inRange
  obtain ⟨edit, own⟩ : ∃ edit, edits[turn.client]? = some edit :=
    ⟨_, List.getElem?_eq_getElem inRange⟩
  cases guarded.phases turn.client edit _ own asks with
  | waiting start silent =>
    cases edit with
    | update change => exact ⟨changes, guarded.step_read own asks silent start turn.spare⟩
    | sync listing parent membership child =>
      exact guarded.step_sync small own asks start turn.spare
  | reading change asUpdate earlier record seen checks settling asked quiet past unchanged =>
    subst asUpdate
    cases settling with
    | checking filter _ settling =>
      exact ⟨changes, guarded.step_check own asks settling asked quiet past unchanged turn.spare⟩
    | writing _ ends =>
      by_cases now : earlier = changes
      · subst now
        exact guarded.step_overwrite small own asks (ends (.ok 1)) asked quiet (unchanged rfl)
          turn.spare
      · have stale : Bson.int64 (versionAfter earlier) ≠ .int64 (versionAfter changes) := by
          intro same
          exact now (versionAfter_injective (Nat.lt_of_le_of_lt past small) small
            (Bson.int64.inj same))
        refine ⟨changes, guarded.step_refused own stale asks (ends (.ok 0)) ?_ turn.spare⟩
        intro call member
        rw [asked] at member
        rcases List.mem_cons.mp member with rfl | check
        · rfl
        · exact (quiet call check).2
  | failed _ _ ended => cases ended
  | updated _ _ _ _ ended => cases ended
  | synced _ ended => cases ended

/-- At the beginning the record is as it was created. -/
theorem gathered {store : Store} (has : store.Has ns id 1 created) :
    Guarded created edits 0 (Crowd.gathered store (edits.map Edit.program)) where
  has := has
  counted := rfl
  few := Nat.le_refl 0
  nodup := List.nodup_nil
  clients := List.length_map Edit.program
  known := by
    intro client wrote
    cases wrote
  phases := by
    intro client edit program mine running
    have start : program = edit.program := by
      simpa [Crowd.gathered, mine, eq_comm] using running
    exact .waiting start rfl (by simp [Crowd.gathered, Crowd.writers])
  unique := by
    intro _ _ _ _ _ _ _ _ _ wrote
    cases wrote

/-- A client that has returned has written, and an update did so over what it had read. -/
theorem of_returned (guarded : Guarded created edits changes crowd)
    {value : Option kind.Carrier} (returned : crowd.Returned client value) :
    client ∈ crowd.writers ∧
      ∀ change, edits[client]? = some (.update change) → ∃ result version, value = some result ∧
        Overwrote ns id client change.record result version (crowd.callsOf client) := by
  have inRange := (List.getElem?_eq_some_iff.mp returned).1
  rw [guarded.clients] at inRange
  obtain ⟨edit, own⟩ : ∃ edit, edits[client]? = some edit := ⟨_, List.getElem?_eq_getElem inRange⟩
  rw [own]
  cases guarded.phases client edit _ own returned with
  | waiting start =>
    obtain ⟨call, next, asked⟩ := edit.program_eq_ask
    cases start.trans asked
  | reading _ _ _ _ _ _ settling => cases settling
  | failed _ _ ended => cases ended
  | updated change asUpdate result earlier ended overwrote past wrote =>
    refine ⟨wrote, fun change' own' => ?_⟩
    cases asUpdate.symm.trans (Option.some.inj own')
    cases ended
    exact ⟨result, _, rfl, overwrote⟩
  | synced asSync ended wrote =>
    refine ⟨wrote, fun change own => ?_⟩
    cases own
    cases asSync

/-- A client that has written has returned. -/
theorem returned_of_mem_writers (guarded : Guarded created edits changes crowd)
    (wrote : client ∈ crowd.writers) : ∃ value, crowd.Returned client value := by
  have known := guarded.known client wrote
  have inRange := known
  rw [← guarded.clients] at inRange
  have running := List.getElem?_eq_getElem inRange
  cases guarded.phases client _ _ (List.getElem?_eq_getElem known) running with
  | waiting _ _ unwritten => exact absurd wrote unwritten
  | reading _ _ _ _ _ _ _ _ _ _ _ unwritten => exact absurd wrote unwritten
  | failed _ _ _ _ unwritten => exact absurd wrote unwritten
  | updated _ _ result _ ended => exact ⟨some result, running.trans (congrArg some ended)⟩
  | synced _ ended => exact ⟨none, running.trans (congrArg some ended)⟩

/-- A client that has failed has left the store alone. -/
theorem of_failed (guarded : Guarded created edits changes crowd) {error : StoreError}
    (failed : crowd.Failed client error) : ∀ event ∈ crowd.callsOf client,
    event.after = event.before := by
  have inRange := (List.getElem?_eq_some_iff.mp failed).1
  rw [guarded.clients] at inRange
  obtain ⟨edit, own⟩ : ∃ edit, edits[client]? = some edit := ⟨_, List.getElem?_eq_getElem inRange⟩
  intro event member
  cases guarded.phases client edit _ own failed with
  | waiting _ silent =>
    rw [silent] at member
    cases member
  | reading _ _ _ _ _ _ _ asked quiet =>
    rw [asked] at member
    rcases List.mem_cons.mp member with rfl | check
    · rfl
    · exact (quiet event check).2
  | failed _ _ _ quiet => exact quiet event member
  | updated _ _ _ _ ended => cases ended
  | synced _ ended => cases ended

/-- A client that edits the list has not failed. -/
theorem not_failed_sync (guarded : Guarded created edits changes crowd) {listing : Listing kind}
    {parent : Addressed kind ns id} {membership : Membership} {child : String}
    (own : edits[client]? = some (.sync listing parent membership child)) (error : StoreError) :
    ¬ crowd.Failed client error := by
  intro failed
  cases guarded.phases client _ _ own failed with
  | waiting start =>
    rw [Edit.program_sync] at start
    cases start
  | reading _ asUpdate => cases asUpdate
  | failed asUpdate => cases asUpdate
  | updated _ asUpdate => cases asUpdate
  | synced _ ended => cases ended

/-- A client that edits the list has written once its call was answered. -/
theorem written_of_sync (guarded : Guarded created edits changes crowd) {listing : Listing kind}
    {parent : Addressed kind ns id} {membership : Membership} {child : String}
    (own : edits[client]? = some (.sync listing parent membership child))
    (called : crowd.callsOf client ≠ []) : client ∈ crowd.writers := by
  have inRange := (List.getElem?_eq_some_iff.mp own).1
  rw [← guarded.clients] at inRange
  cases guarded.phases client _ _ own (List.getElem?_eq_getElem inRange) with
  | waiting _ silent => exact absurd silent called
  | reading _ asUpdate => cases asUpdate
  | failed asUpdate => cases asUpdate
  | updated _ asUpdate => cases asUpdate
  | synced _ _ wrote => exact wrote

/-- What holds between two calls is what is promised. -/
theorem noLostUpdate (guarded : Guarded created edits changes crowd)
    (few : crowd.writers.length < maxChanges) : NoLostUpdate created edits crowd where
  mem_writers client :=
    ⟨guarded.returned_of_mem_writers, fun ⟨_, returned⟩ => (guarded.of_returned returned).1⟩
  nodup_writers := guarded.nodup
  overwrote client change value own returned := (guarded.of_returned returned).2 change own
  unique client other change change' result result' version own own' returned returned' :=
    guarded.unique client other change change' result result' version own own'
      (guarded.of_returned returned).1 (guarded.of_returned returned').1
  sync_never_fails _ _ _ _ _ error own := guarded.not_failed_sync own error
  sync_written _ _ _ _ _ own called := guarded.written_of_sync own called
  unchanged client error failed := guarded.of_failed failed
  final := by
    refine ⟨versionAfter changes, Store.findOne_of_has guarded.has, ?_⟩
    have counted := guarded.counted
    rw [toInt_versionAfter (Nat.lt_of_le_of_lt guarded.few few)]
    omega

/-- **What holds at the beginning holds after every schedule** with fewer writes than versions. -/
theorem run (guarded : Guarded created edits changes crowd) (schedule : List Turn)
    (few : (crowd.run schedule).writers.length < maxChanges) :
    ∃ more, Guarded created edits more (crowd.run schedule) := by
  refine Crowd.run_induction (P := fun crowd => crowd.writers.length < maxChanges →
    ∃ more, Guarded created edits more crowd) (fun _ => ⟨changes, guarded⟩) ?_ schedule few
  intro crowd turn holds fewer
  have before := Nat.lt_of_le_of_lt (crowd.length_writers_le_step turn) fewer
  obtain ⟨some, guarded⟩ := holds before
  exact guarded.step before turn

end Guarded

end VersionGuard

/-- Clients that are about to edit a record that was just created. -/
def Edit.gathered (created : Addressed kind ns id) (edits : List (Edit kind ns id)) (store : Store)
    (spare : ObjectId) : Crowd StoreError (Option kind.Carrier) :=
  .gathered ((Records.create created.record).run (Store.respond spare) store).2
    (edits.map Edit.program)

/-- **No update is lost under the version guard.** A record is created where nobody answers to its key,
as the check of its uniqueness makes sure; then clients update it and edit its membership list, with
their calls in any order, and write less often than a version can count. -/
theorem no_lost_update (created : Addressed kind ns id) (edits : List (Edit kind ns id))
    (store : Store) (spare : ObjectId) (free : store.count ns (.byId id) = 0)
    (schedule : List Turn)
    (few : ((Edit.gathered created edits store spare).run schedule).writers.length < 2 ^ 63 - 2) :
    NoLostUpdate created.record edits ((Edit.gathered created edits store spare).run schedule) := by
  obtain ⟨_, has⟩ :=
    Store.insertOne_of_lacks (Store.lacks_of_count_eq_zero free) spare 1 created.record
  have start : ((Records.create created.record).run (Store.respond spare) store).2 =
      (store.insertOne spare ns (Records.stored id 1 created.record)).2 := by
    rw [Records.run_create created.placed, created.keyed]
  rw [← start] at has
  obtain ⟨changes, guarded⟩ := (VersionGuard.Guarded.gathered has).run schedule few
  exact guarded.noLostUpdate few

/-- Two updates of a new course that read the same version, and a lesson that is listed in between. -/
theorem no_lost_update_of_course :
    let course : Course := { Course.withId "algebra" with title := "Algebra" }
    let edits := [
      .update (Course.addressed { course with title := "Algebra I" }),
      .update (Course.addressed { course with price := "20" }),
      .sync .lessons course.addressed .push "rings"]
    let turns := [⟨0, ⟨0⟩⟩, ⟨1, ⟨0⟩⟩, ⟨0, ⟨0⟩⟩, ⟨2, ⟨0⟩⟩, ⟨1, ⟨0⟩⟩]
    Store.empty.count ⟨systemDatabase, RecordKind.course.collection⟩ (.byId "algebra") = 0 ∧
      NoLostUpdate course.addressed.record edits
        ((Edit.gathered course.addressed edits Store.empty ⟨0⟩).run turns) := by
  refine ⟨rfl, no_lost_update _ _ Store.empty ⟨0⟩ rfl _ ?_⟩
  exact Nat.lt_of_le_of_lt (Crowd.length_writers_run_le _ _) (by decide)

end Syllabus
