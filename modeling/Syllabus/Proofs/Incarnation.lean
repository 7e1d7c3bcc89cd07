/-
**A record that is deleted and created again.**

Clients create, update and delete one record, with their calls in any order. Every creation starts to
count versions at 1, so the version that an update has read may come back with another record under
the same key. Here it is said exactly when a stale update takes effect.

* `Act` — what a client does, `Concerns` — its calls;
* `Event.versionAfter` — the version of the record after a call, counted along a history;
  `Linked.tracks` — and the store agrees;
* **`stale_update_takes_effect_iff`** — an update takes effect exactly if the calls between its read
  and its write bring back the version that it read;
* `update_takes_effect_on_new_incarnation` — they can: a deletion and a creation do.
-/

import Syllabus.Proofs.Crowd
import Syllabus.Proofs.Update

namespace Syllabus

variable {kind : RecordKind} {ns : Namespace} {id : String}

/-- What a client does with the record. -/
inductive Act (kind : RecordKind) (ns : Namespace) (id : String) where
  | create (record : Addressed kind ns id)
  | update (change : Addressed kind ns id)
  | delete (template : Addressed kind ns id)

/-- The calls of the client. -/
def Act.program : Act kind ns id → StoreProgram StoreError Unit
  | .create record => Records.create record.record
  | .update change => do
    let _ ← Records.update change.record
    .done ()
  | .delete template => Records.delete template.record

/-- The calls of clients that create, update and delete one record. -/
inductive Concerns (kind : RecordKind) (ns : Namespace) (id : String) : Call → Prop
  | read : Concerns kind ns id ⟨.update, .findOne ns (.byId id)⟩
  | check (filter : Filter) : Concerns kind ns id ⟨.validate, .count ns filter⟩
  | create (record : kind.Carrier) :
      Concerns kind ns id ⟨.create, .insertOne ns (Records.stored id 1 record)⟩
  | write (previous : Bson) (record : kind.Carrier) :
      Concerns kind ns id ⟨.update, .replaceOne ns (.guard id previous)
        (Records.stored id (versionNumber previous + 1) record)⟩
  | delete : Concerns kind ns id ⟨.delete, .deleteOne ns (.byId id)⟩

/-- The version of the record after a call, by the one before it. -/
def Event.versionAfter (version : Option Int64) (event : Event) : Option Int64 :=
  if event.landed then
    match event.call.request with
    | .insertOne _ _ => some 1
    | .replaceOne _ _ _ => version.map (· + 1)
    | .deleteOne _ _ => none
    | _ => version
  else version

/-- The call deleted the record. -/
def Event.deletes (event : Event) : Bool :=
  match event.call.request with
  | .deleteOne _ _ => event.landed
  | _ => false

/-- The call created the record. -/
def Event.creates (event : Event) : Bool :=
  match event.call.request with
  | .insertOne _ _ => event.landed
  | _ => false

/-- The request is to replace a document. -/
def Request.replaces : Request → Bool
  | .replaceOne _ _ _ => true
  | _ => false

/-- The store has the record at this version, or nobody answers to its key. -/
def Store.Tracks (kind : RecordKind) (ns : Namespace) (id : String) (version : Option Int64)
    (store : Store) : Prop :=
  match version with
  | none => store.Lacks ns id
  | some version => ∃ record : kind.Carrier, store.Has ns id version record

/-! ### The calls of such clients -/

theorem Records.concerns_update (change : Addressed kind ns id) :
    (Records.update change.record).Asks (Concerns kind ns id) := by
  unfold Records.update
  rw [change.placed, change.keyed]
  refine (asks_call .read).bind fun found => ?_
  cases found with
  | none => exact .fail _
  | some document =>
    refine (Program.Asks.ofExcept _).bind fun existing => ?_
    refine ((asks_ensureAllUnused ns _ _).mono ?_).bind fun _ => ?_
    · rintro call ⟨filter, rfl⟩
      exact .check filter
    · refine (asks_call (.write _ _)).bind fun replaced => ?_
      split
      · exact .fail _
      · exact .done _

theorem Act.asks_program (act : Act kind ns id) : act.program.Asks (Concerns kind ns id) := by
  cases act with
  | create record =>
    show (Records.create record.record).Asks _
    unfold Records.create
    rw [record.placed, record.keyed]
    exact (Records.asks_call (.create record.record)).bind fun _ => .done ()
  | update change => exact (Records.concerns_update change).bind fun _ => .done ()
  | delete template =>
    show (Records.delete template.record).Asks _
    unfold Records.delete
    rw [template.placed, template.keyed]
    refine (Records.asks_call .delete).bind fun deleted => ?_
    split
    · exact .fail _
    · exact .done ()

/-! ### The version along a history -/

/-- The write of an update, whatever it expects: it takes place if the record has that version. -/
theorem Store.Tracks.replaceOne {version : Option Int64} {store : Store}
    (tracks : store.Tracks kind ns id version) (previous : Bson) (record : kind.Carrier) :
    (∃ expected, previous = .int64 expected ∧ version = some expected ∧
      (store.replaceOne ns (.guard id previous)
        (Records.stored id (versionNumber previous + 1) record)).1 = 1 ∧
      (store.replaceOne ns (.guard id previous)
        (Records.stored id (versionNumber previous + 1) record)).2.Has ns id (expected + 1) record) ∨
    store.replaceOne ns (.guard id previous)
      (Records.stored id (versionNumber previous + 1) record) = (0, store) := by
  cases version with
  | none => exact .inr (Store.replaceOne_of_lacks tracks previous _)
  | some version =>
    obtain ⟨held, has⟩ := tracks
    by_cases expected : previous = .int64 version
    · subst expected
      obtain ⟨replaced, after⟩ := Store.replaceOne_of_has has (version + 1) record
      exact .inl ⟨version, rfl, rfl, replaced, after⟩
    · exact .inr (Store.replaceOne_of_has_of_ne has expected _)

/-- **One call keeps the count of the version.** -/
theorem Event.tracks_after {version : Option Int64} {event : Event} (genuine : event.Genuine)
    (concerns : Concerns kind ns id event.call)
    (tracks : event.before.Tracks kind ns id version) :
    event.after.Tracks kind ns id (event.versionAfter version) := by
  obtain ⟨client, call, answer, before, after⟩ := event
  obtain ⟨spare, responded⟩ := genuine
  change before.respond spare call = (answer, after) at responded
  change before.Tracks kind ns id version at tracks
  cases concerns with
  | read =>
    cases responded
    exact tracks
  | check filter =>
    cases responded
    exact tracks
  | create record =>
    change before.insertOne spare ns _ = (answer, after) at responded
    cases version with
    | none =>
      obtain ⟨accepted, has⟩ := Store.insertOne_of_lacks tracks spare 1 record
      rw [responded] at accepted has
      cases accepted
      exact ⟨record, has⟩
    | some version =>
      obtain ⟨held, has⟩ := tracks
      obtain ⟨⟨error, refused⟩, still⟩ := Store.insertOne_of_has has spare 1 record
      rw [responded] at refused still
      cases refused
      exact ⟨held, still⟩
  | write previous record =>
    rw [Store.respond_replaceOne] at responded
    rcases tracks.replaceOne previous record with ⟨expected, _, rfl, replaced, has⟩ | unchanged
    · rw [replaced] at responded
      cases responded
      exact ⟨record, has⟩
    · rw [unchanged] at responded
      cases responded
      exact tracks
  | delete =>
    rw [Store.respond_deleteOne] at responded
    cases version with
    | none =>
      rw [Store.deleteOne_of_lacks tracks] at responded
      cases responded
      exact tracks
    | some version =>
      obtain ⟨held, has⟩ := tracks
      obtain ⟨deleted, lacks⟩ := Store.deleteOne_of_has has
      rw [deleted] at responded
      cases responded
      exact lacks

/-- **A history counts the version.** -/
theorem Linked.tracks {first last : Store} {events : List Event} (linked : Linked first events last)
    (concerns : ∀ event ∈ events, Concerns kind ns id event.call) {version : Option Int64}
    (start : first.Tracks kind ns id version) :
    last.Tracks kind ns id (events.foldl Event.versionAfter version) := by
  induction linked generalizing version with
  | nil store => exact start
  | cons event rest last genuine _ ih =>
    refine ih (fun other member => concerns other (List.mem_cons_of_mem _ member)) ?_
    exact event.tracks_after genuine (concerns event List.mem_cons_self) start

/-- Every call of a history is answered genuinely, by a store that has a count of the version. -/
theorem Linked.tracks_before {first last : Store} {events : List Event}
    (linked : Linked first events last)
    (concerns : ∀ event ∈ events, Concerns kind ns id event.call) {version : Option Int64}
    (start : first.Tracks kind ns id version) :
    ∀ event ∈ events, event.Genuine ∧ ∃ version, event.before.Tracks kind ns id version := by
  intro event member
  obtain ⟨front, back, rfl⟩ := List.append_of_mem member
  obtain ⟨middle, ahead, behind⟩ := linked.split
  have tracks := ahead.tracks (fun other early => concerns other (by simp [early])) start
  cases behind with
  | cons _ _ _ genuine _ => exact ⟨genuine, _, tracks⟩

theorem Event.versionAfter_of_deletes {event : Event} (deletes : event.deletes = true)
    (version : Option Int64) : event.versionAfter version = none := by
  unfold Event.deletes at deletes
  unfold Event.versionAfter
  split at deletes
  · next asked => rw [if_pos deletes, asked]
  · cases deletes

/-- Without a creation, a record that is not there stays so. -/
theorem Event.versionAfter_none {event : Event} (creates : event.creates = false) :
    event.versionAfter none = none := by
  unfold Event.creates at creates
  unfold Event.versionAfter
  split at creates
  · rw [creates]
    rfl
  · split
    · split <;> simp_all
    · rfl

theorem versionAfter_of_no_creation {events : List Event}
    (barren : ∀ event ∈ events, event.creates = false) :
    events.foldl Event.versionAfter none = none := by
  induction events with
  | nil => rfl
  | cons event events ih =>
    rw [List.foldl_cons, Event.versionAfter_none (barren event List.mem_cons_self)]
    exact ih fun other member => barren other (List.mem_cons_of_mem _ member)

/-- A deletion, and no creation after it, leave no version. -/
theorem versionAfter_of_deletion {gap front back : List Event} {deletion : Event}
    (cut : gap = front ++ deletion :: back) (deletes : deletion.deletes = true)
    (barren : ∀ event ∈ back, event.creates = false) (version : Option Int64) :
    gap.foldl Event.versionAfter version = none := by
  rw [cut, List.foldl_append, List.foldl_cons, Event.versionAfter_of_deletes deletes]
  exact versionAfter_of_no_creation barren

/-! ### The calls of one update -/

/-- The calls of an update after its first: checks, and a write over the version it read. -/
theorem Act.calls_of_update {change : Addressed kind ns id} {read : Event} {rest : List Event}
    {left : StoreProgram StoreError Unit}
    (follows : Follows (Act.update change).program (read :: rest) left) (genuine : read.Genuine)
    {version : Option Int64} (tracks : read.before.Tracks kind ns id version) :
    rest = [] ∨ ∃ version record, read.before.Has ns id version record ∧
      ∀ event ∈ rest, event.call.Counts ns ∨
        event.call = Records.writeOver ns id version (merge record change.record) := by
  obtain ⟨next, asked, absent, settling⟩ := Records.update_eq_ask change.placed change.keyed
  have shape : (Act.update change).program =
      .ask ⟨.update, .findOne ns (.byId id)⟩ fun answer => next answer >>= fun _ => .done () := by
    rw [Act.program, asked]
    rfl
  rw [shape] at follows
  cases follows with
  | cons client _ answer before after _ _ _ follows =>
    obtain ⟨spare, responded⟩ := genuine
    change (.ok (before.findOne ns (.byId id)), before) = (answer, after) at responded
    change before.Tracks kind ns id version at tracks
    cases responded
    change Follows (next (.ok (before.findOne ns (.byId id))) >>= fun _ => .done ()) rest left
      at follows
    cases version with
    | none =>
      rw [Store.findOne_of_lacks tracks, absent] at follows
      cases follows
      exact .inl rfl
    | some version =>
      obtain ⟨record, has⟩ := tracks
      rw [Store.findOne_of_has has] at follows
      have asks := ((settling version record).bind_done fun _ => ()).asks
      exact .inr ⟨version, record, has, (follows.asks asks).2⟩

/-- An update that came to its write had read the record, and writes over the version it read. -/
theorem Act.write_of_read {change : Addressed kind ns id} {calls front middle back : List Event}
    {read write : Event} {left : StoreProgram StoreError Unit}
    (follows : Follows (Act.update change).program calls left)
    (genuine : ∀ event ∈ calls, event.Genuine ∧ ∃ version, event.before.Tracks kind ns id version)
    (cut : calls = front ++ read :: (middle ++ write :: back))
    (reads : read.call = ⟨.update, .findOne ns (.byId id)⟩)
    (replaces : write.call.request.replaces = true) :
    ∃ version record, read.before.Has ns id version record ∧
      write.call = Records.writeOver ns id version (merge record change.record) := by
  subst cut
  cases front with
  | nil =>
    obtain ⟨answered, version, tracks⟩ := genuine read List.mem_cons_self
    have member : write ∈ middle ++ write :: back := by simp
    rcases Act.calls_of_update follows answered tracks with none | ⟨version, record, has, calls⟩
    · simp at none
    · rcases calls write member with ⟨filter, counts⟩ | writes
      · rw [counts] at replaces
        cases replaces
      · exact ⟨version, record, has, writes⟩
  | cons first front =>
    -- The first call reads, and no later one does, so it cannot come before the read.
    obtain ⟨answered, version, tracks⟩ := genuine first List.mem_cons_self
    have member : read ∈ front ++ read :: (middle ++ write :: back) := by simp
    rcases Act.calls_of_update follows answered tracks with none | ⟨version, record, has, calls⟩
    · simp at none
    · rcases calls read member with ⟨filter, counts⟩ | writes
      · rw [counts] at reads
        cases reads
      · rw [writes] at reads
        cases reads

/-! ### Stale updates -/

/-- Reading leaves the store. -/
theorem Event.after_eq_before {event : Event} (genuine : event.Genuine)
    (reads : event.call = ⟨.update, .findOne ns (.byId id)⟩) : event.after = event.before := by
  obtain ⟨client, call, answer, before, after⟩ := event
  obtain ⟨spare, responded⟩ := genuine
  cases reads
  change (.ok (before.findOne ns (.byId id)), before) = (answer, after) at responded
  cases responded
  rfl

/-- Clients that are about to create, update and delete a record. -/
def Act.gathered (acts : List (Act kind ns id)) (store : Store) : Crowd StoreError Unit :=
  .gathered store (acts.map Act.program)

/-- The write over a version takes effect if the record has it, and changes nothing otherwise. -/
theorem Event.after_eq_before_iff {event : Event} (genuine : event.Genuine) {expected : Int64}
    {record : kind.Carrier} (writes : event.call = Records.writeOver ns id expected record)
    {version : Option Int64} (tracks : event.before.Tracks kind ns id version) :
    (event.after = event.before ↔ version ≠ some expected) ∧
      (event.after ≠ event.before → event.after.Has ns id (expected + 1) record) := by
  obtain ⟨client, call, answer, before, after⟩ := event
  obtain ⟨spare, responded⟩ := genuine
  cases writes
  change before.respond spare _ = (answer, after) at responded
  change before.Tracks kind ns id version at tracks
  show (after = before ↔ version ≠ some expected) ∧
    (after ≠ before → after.Has ns id (expected + 1) record)
  rw [Store.respond_replaceOne] at responded
  by_cases now : version = some expected
  · subst now
    obtain ⟨held, has⟩ := tracks
    obtain ⟨replaced, made⟩ := Store.replaceOne_of_has has (expected + 1) record
    rw [replaced] at responded
    cases responded
    have changed : (before.replaceOne ns (.guard id (.int64 expected))
        (Records.stored id (expected + 1) record)).2 ≠ before := by
      intro same
      rw [same] at made
      exact Store.not_has_next has made
    exact ⟨by simp [changed], fun _ => made⟩
  · have unchanged : before.replaceOne ns (.guard id (.int64 expected))
        (Records.stored id (expected + 1) record) = (0, before) := by
      cases version with
      | none => exact Store.replaceOne_of_lacks tracks _ _
      | some version =>
        obtain ⟨held, has⟩ := tracks
        refine Store.replaceOne_of_has_of_ne has (fun same => now ?_) _
        rw [Bson.int64.inj same]
    rw [unchanged] at responded
    cases responded
    exact ⟨by simp [now], fun changed => absurd rfl changed⟩

/-- **When a stale update takes effect.** Clients create, update and delete one record, with their
calls in any order. An update, whose read and write are two of these calls, changes the store exactly
if the calls in between bring back the version that it read; and if there was a deletion among them,
this takes a creation after it. -/
theorem stale_update_takes_effect_iff (acts : List (Act kind ns id)) (store : Store)
    {start : Option Int64} (kept : store.Tracks kind ns id start) (schedule : List Turn)
    {past gap later : List Event} {read write : Event} {client : Nat} {change : Addressed kind ns id}
    (own : acts[client]? = some (.update change))
    (happened : ((Act.gathered acts store).run schedule).history =
      past ++ read :: gap ++ write :: later)
    (reads : read.client = client ∧ read.call = ⟨.update, .findOne ns (.byId id)⟩)
    (writes : write.client = client ∧ write.call.request.replaces = true) :
    ∃ version record, read.before.Has ns id version record ∧
      (write.after = write.before ↔ gap.foldl Event.versionAfter (some version) ≠ some version) ∧
      (write.after ≠ write.before →
        write.after.Has ns id (version + 1) (merge record change.record)) ∧
      (∀ front deletion back, gap = front ++ deletion :: back → deletion.deletes = true →
        write.after ≠ write.before → ∃ creation ∈ back, creation.creates = true) := by
  have since := Crowd.Since.of_run store (acts.map Act.program) schedule
  change Crowd.Since store _ ((Act.gathered acts store).run schedule) at since
  obtain ⟨left, _, follows⟩ := since.follows client (Act.update change).program (by simp [own])
  have concerns : ∀ event ∈ ((Act.gathered acts store).run schedule).history,
      Concerns kind ns id event.call := by
    refine since.asks fun program member => ?_
    obtain ⟨act, _, rfl⟩ := List.mem_map.mp member
    exact act.asks_program
  have cut : ((Act.gathered acts store).run schedule).callsOf client =
      past.filter (·.client == client) ++
        read :: (gap.filter (·.client == client) ++ write :: later.filter (·.client == client)) := by
    simp [Crowd.callsOf, happened, reads.1, writes.1]
  have answered := since.linked.tracks_before concerns kept
  obtain ⟨version, record, has, written⟩ := Act.write_of_read follows
    (fun event member => answered event (List.mem_filter.mp member).1) cut reads.2 writes.2
  have linked := since.linked
  rw [happened] at linked concerns answered
  obtain ⟨middle, ahead, behind⟩ := linked.split
  obtain ⟨_, _, between⟩ := ahead.split
  have tracks : write.before.Tracks kind ns id (gap.foldl Event.versionAfter (some version)) := by
    cases behind with
    | cons _ _ _ genuine _ =>
      cases between with
      | cons _ _ _ seen rest =>
        refine rest.tracks (fun event member => concerns event (by simp [member])) ?_
        rw [read.after_eq_before seen reads.2]
        exact ⟨record, has⟩
  obtain ⟨unchanged_iff, made⟩ :=
    write.after_eq_before_iff (answered write (by simp)).1 written tracks
  refine ⟨version, record, has, unchanged_iff, made, ?_⟩
  intro front deletion back parts deletes changed
  refine Classical.byContradiction fun barren => ?_
  have none : gap.foldl Event.versionAfter (some version) = none := by
    refine versionAfter_of_deletion parts deletes (fun event member => ?_) _
    rw [← Bool.not_eq_true]
    exact fun creates => barren ⟨event, member, creates⟩
  exact changed (unchanged_iff.mpr (by simp [none]))

/-- A course that is renamed by one client, while others delete it and create another under its id. -/
def Act.recreation : List (Act .course ⟨systemDatabase, RecordKind.course.collection⟩ "algebra") := [
  .create (Course.addressed { Course.withId "algebra" with title := "Algebra", price := "20" }),
  .update (Course.addressed { Course.withId "algebra" with title := "Old algebra" }),
  .delete (Course.addressed (Course.withId "algebra")),
  .create (Course.addressed { Course.withId "algebra" with title := "New algebra", price := "30" })]

/-- The first course is there when it is read, and the second when it is written. -/
def Act.recreationTurns : List Turn :=
  [0, 1, 2, 3, 1].map fun client => ⟨client, ⟨0⟩⟩

/-- **A stale update takes effect on another record.** The record that was read is deleted, another
one is created, and the write of the update replaces that one by the record that was read, with the
update merged in. -/
theorem update_takes_effect_on_new_incarnation :
    ∃ created read deletion creation write,
      ((Act.gathered Act.recreation Store.empty).run Act.recreationTurns).history =
        [created, read, deletion, creation, write] ∧
      (read.client = 1 ∧ write.client = 1 ∧ deletion.deletes = true ∧ creation.creates = true) ∧
      write.before.findOne ⟨systemDatabase, RecordKind.course.collection⟩ (.byId "algebra") =
        some (Records.stored "algebra" 1
          { Course.withId "algebra" with title := "New algebra", price := "30" }) ∧
      write.after.findOne ⟨systemDatabase, RecordKind.course.collection⟩ (.byId "algebra") =
        some (Records.stored "algebra" 2
          { Course.withId "algebra" with title := "Old algebra", price := "20" }) ∧
      write.after ≠ write.before := by
  refine ⟨_, _, _, _, _, rfl, ⟨rfl, rfl, rfl, rfl⟩, rfl, rfl, ?_⟩
  intro same
  have versions : (2 : Int64) = 1 := congrArg (fun store => ((store.findOne
    ⟨systemDatabase, RecordKind.course.collection⟩ (.byId "algebra")).map Document.version).getD 0)
    same
  exact absurd versions (by decide)

/-- A course that is deleted and created again, as a case of the theorem. -/
theorem stale_update_takes_effect_iff_of_recreation :
    Store.empty.Tracks .course ⟨systemDatabase, RecordKind.course.collection⟩ "algebra" none ∧
      ∃ created read deletion creation write version record,
        ((Act.gathered Act.recreation Store.empty).run Act.recreationTurns).history =
          [created] ++ read :: [deletion, creation] ++ [write] ∧
        read.before.Has ⟨systemDatabase, RecordKind.course.collection⟩ "algebra" version
          (record : RecordKind.Carrier .course) ∧
        (write.after = write.before ↔
          [deletion, creation].foldl Event.versionAfter (some version) ≠ some version) := by
  have kept : Store.empty.Tracks .course ⟨systemDatabase, RecordKind.course.collection⟩ "algebra"
      none := by
    intro document member
    cases member
  obtain ⟨created, read, deletion, creation, write, happened, reads, writes⟩ :
      ∃ created read deletion creation write : Event,
        ((Act.gathered Act.recreation Store.empty).run Act.recreationTurns).history =
          [created] ++ read :: [deletion, creation] ++ write :: [] ∧
        (read.client = 1 ∧ read.call = ⟨.update, .findOne
          ⟨systemDatabase, RecordKind.course.collection⟩ (.byId "algebra")⟩) ∧
        (write.client = 1 ∧ write.call.request.replaces = true) :=
    ⟨_, _, _, _, _, rfl, ⟨rfl, rfl⟩, rfl, rfl⟩
  obtain ⟨version, record, has, unchanged_iff, _⟩ :=
    stale_update_takes_effect_iff Act.recreation Store.empty kept Act.recreationTurns rfl happened
      reads writes
  exact ⟨kept, created, read, deletion, creation, write, version, record, happened, has,
    unchanged_iff⟩

end Syllabus
