/-
**Updates that are sent again.**

A client that has lost the answer to an update sends it again. The service merges the same change into a
record that has it already, so that the record stays; the values that no two records may share are not
checked again, since the record has them; and the write is counted once more.

* `Records.introduced_self` — a record that stays introduces no values;
* `RecordKind.lawful` — changes of courses, lessons, contents and users compose;
* `Records.run_update_again`, `Records.exists_has_of_update` — an update that is made again, and what the
  first one has left;
* `Handler.get_eq` — the handler of a read;
* **`updates_are_idempotent`** — the same update, sent twice.
-/

import Syllabus.Proofs.Addressable
import Syllabus.Proofs.Merging
import Syllabus.Proofs.Protected
import Syllabus.Proofs.ServerEdit

namespace Syllabus

/-! ### Updates -/

theorem RecordKind.lawful (kind : RecordKind) : LawfulMerge kind.Carrier := by
  cases kind with
  | course => exact Course.built.lawful.toLawfulMerge
  | lesson => exact Lesson.built.lawful.toLawfulMerge
  | content => exact Content.built.lawful.toLawfulMerge
  | user => exact User.built.lawful.toLawfulMerge

namespace Records

variable {store next : Store} {ns : Namespace} {spare : ObjectId} {version : Int64}

/-- A record that stays introduces no values. -/
theorem introduced_self {ρ : Type} [Record ρ] (record : ρ) : introduced record record = [] := by
  rw [introduced, List.filter_eq_nil_iff]
  rintro ⟨field, value⟩ member
  simp [member]

/-- **An update that is made again** leaves the record, and its document but for the version. -/
theorem run_update_again {ρ : Type} [Record ρ] [LawfulRecord ρ] {record change : ρ}
    (placed : Record.place change = .ok ns)
    (has : store.Has ns (Record.id change) version record) (merged : merge record change = record) :
    (update change).run (Store.respond spare) store = (.ok record, store.update ns
      (Store.changeFirst (.byId (Record.id change)) fun _ =>
        (stored (Record.id change) version record).bumped)) := by
  rw [run_update_of_has placed has, merged, introduced_self, bumped_stored]
  rfl

/-- **An update that has succeeded** has merged the change into the record that was there, and left it at
the next version. -/
theorem exists_has_of_update {kind : RecordKind} {change record : kind.Carrier}
    (intact : store.Intact)
    (ran : (update change).run (Store.respond spare) store = (.ok record, next)) :
    ∃ ns version existing, Record.place change = .ok ns ∧ Record.place record = .ok ns ∧
      store.Has ns (Record.id change) version existing ∧ record = merge existing change ∧
      next.Has ns (Record.id change) (version + 1) record := by
  cases placed : Record.place change with
  | error error =>
    rw [update, placed] at ran
    cases ran
  | ok ns =>
    obtain ⟨c, rfl⟩ := RecordKind.home_of_place placed
    obtain ⟨ledger, reflects⟩ := intact.reflects
    obtain ⟨entries, shelf, _⟩ := reflects kind c
    cases found : entries.find? (·.key == Record.id change) with
    | none =>
      rw [run_update placed, shelf.findOne, found] at ran
      cases ran
    | some entry =>
      have keyed : entry.key = Record.id change := by simpa using List.find?_some found
      have member := List.mem_of_find?_eq_some found
      have has : store.Has (kind.home c) (Record.id change) entry.version entry.record :=
        keyed ▸ shelf.has_of_mem member
      rw [run_update_of_has placed has] at ran
      split at ran
      · cases ran
      · cases ran
        exact ⟨_, entry.version, entry.record, rfl,
          (place_merge entry.record change).trans (shelf.placed entry member), has, rfl,
          Store.has_update has _ _⟩

end Records

/-! ### Handlers -/

namespace Handler

/-- The handler of a read gets the record that the path addresses and tells it. -/
theorem get_eq {route : Route} {kind : RecordKind} {ns : Namespace} {id : String}
    (names : route.Names kind ns id) (backendName : String) :
    ∃ template : kind.Carrier, Record.id template = id ∧
      (∀ record : kind.Carrier, Record.place record = .ok ns → Record.place template = .ok ns) ∧
      ∀ occasion request, handle backendName occasion request .get route =
        some ((Records.get template).mapError .ofStore >>= fun record => .done (.success record)) := by
  cases names with
  | course => exact ⟨Course.withId id, rfl, fun _ _ => rfl, fun _ _ => rfl⟩
  | lesson courseRef =>
    exact ⟨Lesson.withId courseRef id, rfl,
      fun _ placed => Lesson.place_of_usable (Lesson.usable_of_place placed), fun _ _ => rfl⟩
  | content courseRef =>
    exact ⟨Content.withId courseRef id, rfl,
      fun _ placed => Content.place_of_usable (Content.usable_of_place placed), fun _ _ => rfl⟩
  | user => exact ⟨User.withId id, rfl, fun _ _ => rfl, fun _ _ => rfl⟩

end Handler

/-! ### Requests -/

namespace Incoming

variable {incoming : Incoming} {route : Route} {kind : RecordKind} {ns : Namespace} {id : String}
  {store : Store}

/-- A read under the path of a record that is there tells the record, and leaves the store. -/
theorem answer_of_get {version : Int64} {record : kind.Carrier}
    (addressed : incoming.Addresses .get route) (names : route.Names kind ns id)
    (placed : Record.place record = .ok ns) (has : store.Has ns id version record) :
    incoming.answer store = (incoming.dressed (Reply.success record).response, store) := by
  obtain ⟨template, keyed, beside, handlers⟩ := Handler.get_eq names Store.backendName
  have handled : incoming.Handled .get route _ :=
    { addressed with handler := handlers incoming.occasion incoming.request }
  have ran : ((Records.get template).mapError .ofStore >>= fun record =>
      .done (.success record) : StoreProgram ApiError Reply).run (Store.respond incoming.spare) store =
        (.ok (.success record), store) := by
    refine Program.run_bind_eq_ok_iff.mpr ⟨record, store, Program.run_mapError_eq_ok_iff.mpr ?_, rfl⟩
    exact Records.run_get_of_has (beside record placed) (keyed ▸ has)
  rw [handled.answer_eq, ran]
  rfl

/-- What a client gets depends on the request and the policy on other origins. -/
theorem dressed_congr {again : Incoming} (same : again.request = incoming.request)
    (policy : again.cors = incoming.cors) : again.dressed = incoming.dressed := by
  funext response
  rw [dressed, dressed, same, policy]

/-- **An update that was answered with success** has left the record that it tells at the next version of
the one that was there. Sent again, it tells the same record, and its document but for the version. -/
theorem put_again {again : Incoming} (intact : store.Intact)
    (addressed : incoming.Addresses .put route) (names : route.Names kind ns id)
    (same : again.request = incoming.request) (policy : again.cors = incoming.cors)
    (success : (incoming.response store).status = 200) :
    ∃ (existing record : kind.Carrier) (version : Int64),
      Record.place record = .ok ns ∧ store.Has ns id version existing ∧
      incoming.response store = incoming.dressed (Reply.success record).response ∧
      (incoming.leaves store).Has ns id (version + 1) record ∧
      again.answer (incoming.leaves store) = (incoming.response store,
        (incoming.leaves store).update ns (Store.changeFirst (.byId id) fun _ =>
          (Records.stored id (version + 1) record).bumped)) := by
  obtain ⟨program, reply, handled, ran⟩ := handled_of_success addressed names.put_mem_verbs success
  obtain ⟨address, tell, keyed, housed, handlers⟩ := Handler.put_eq names Store.backendName
  cases (handlers incoming.occasion incoming.request).symm.trans handled.handler
  obtain ⟨change, record, decoded, updated, rfl⟩ := Handler.run_put_eq_ok_iff.mp ran
  obtain ⟨found, version, existing, placed, there, has, merged, now⟩ :=
    Records.exists_has_of_update intact updated
  cases housed change found placed
  have idempotent : merge record (address change) = record := by
    have := kind.lawful
    rw [merged, LawfulMerge.merge_again]
  have rerun := @Records.run_update_again _ ns again.spare _ _ _ _ record (address change)
    placed now idempotent
  rw [keyed] at has now rerun
  have handledAgain : again.Handled .put route _ :=
    { path := same ▸ addressed.path
      method := same ▸ addressed.method
      handler := handlers again.occasion again.request }
  have ranAgain := (@Handler.run_put_eq_ok_iff _ _ _ _ kind address tell again.request).mpr
    ⟨change, record, same ▸ decoded, rerun, rfl⟩
  have told : incoming.response store = incoming.dressed (Reply.success record).response := by
    rw [response, handled.answer_eq, ran]
    rfl
  refine ⟨existing, record, version, there, has, told, now, ?_⟩
  rw [handledAgain.answer_eq, ranAgain, told, dressed_congr same policy]
  rfl

end Incoming

/-- A record that is filed has counted no more changes than there were. -/
theorem Store.Filed.version_of_has {ρ : Type} [Record ρ] {changes : Nat} {store : Store}
    {ns : Namespace} {id : String} {version : Int64} {record : ρ} (filed : store.Filed changes)
    (has : store.Has ns id version record) :
    ∃ count, count ≤ changes + 1 ∧ version = Int64.ofNat count := by
  have member := List.mem_of_find?_eq_some (Store.findOne_of_has has)
  obtain ⟨kind, other, count, _, _, _, counted, written⟩ := filed ns _ member
  have versions := congrArg Document.version written
  rw [Records.version_stored, Records.version_stored] at versions
  exact ⟨count, counted, versions⟩

/-- **Updates are idempotent.** After any requests, one after another, on a store that was empty at first,
an update of a course, lesson, content or user that is answered with success gets the same response when
it is sent again at once, whatever the time is then and the ids that are made. The second time it changes
nothing but the version of the one document under its path, which is larger by one; that is so as a whole
number, too, as long as there are fewer requests than versions. A read of the path tells the same record
before and after. -/
theorem updates_are_idempotent (traffic : List Incoming) {put again : Incoming} {route : Route}
    {kind : RecordKind} {ns : Namespace} {id : String} (addressed : put.Addresses .put route)
    (names : route.Names kind ns id) (same : again.request = put.request)
    (policy : again.cors = put.cors)
    (success : (put.response (Store.empty.after traffic)).status = 200) :
    let store := Store.empty.after traffic
    let next := put.leaves store
    let last := again.leaves next
    ∃ (record : kind.Carrier) (document : Document) (version : Int64),
      put.response store = put.dressed (Reply.success record).response ∧
      again.response next = put.response store ∧
      next.findOne ns (.byId id) = some document ∧
      document.get? versionKey = some (.int64 version) ∧
      last = next.update ns (Store.changeFirst (.byId id) fun _ =>
        document.insert versionKey (.int64 (version + 1))) ∧
      ((∀ incoming ∈ traffic, incoming.occasion.freshId ≠ "") → traffic.length < 2 ^ 63 - 3 →
        (version + 1).toInt = version.toInt + 1) ∧
      ∀ read : Incoming, read.Addresses .get route →
        read.answer next = (read.dressed (Reply.success record).response, next) ∧
        read.answer last = (read.dressed (Reply.success record).response, last) := by
  intro store next last
  obtain ⟨existing, record, version, placed, has, told, now, answered⟩ :=
    Incoming.put_again (Store.Intact.after traffic) addressed names same policy success
  have left : last = next.update ns (Store.changeFirst (.byId id) fun _ =>
      (Records.stored id (version + 1) record).bumped) := congrArg Prod.snd answered
  have after : last.Has ns id (version + 1 + 1) record := by
    rw [left, Records.bumped_stored]
    exact Store.has_update now _ record
  refine ⟨record, Records.stored id (version + 1) record, version + 1, told, (congrArg Prod.fst answered :),
    Store.findOne_of_has now, Records.get?_stored_version .., ?_, fun named few => ?_,
    fun read addressed => ⟨?_, ?_⟩⟩
  · rw [left, Document.bumped, Records.version_stored]
  · obtain ⟨count, counted, rfl⟩ := (Store.filed_empty.after traffic named).version_of_has has
    refine toInt_succ_of_lt (Int64.lt_iff_toInt_lt.mpr ?_)
    have greatest : Int64.maxValue.toInt = 2 ^ 63 - 1 := Int64.toInt_maxValue
    have number : (Int64.ofNat (count + 1)).toInt = (count + 1 : Nat) :=
      Int64.toInt_ofNat_of_lt (by omega)
    rw [Int64.ofNat_add] at number
    exact number ▸ greatest ▸ by omega
  · exact Incoming.answer_of_get addressed names placed now
  · exact Incoming.answer_of_get addressed names placed after

/-- A course that has got a title gets it again, and is read with it. -/
theorem updates_are_idempotent_of_retitled :
    let store := Store.empty.after [.ofJson "POST" "/course" "[\"algebra\"]"]
    let again : Incoming := { retitled with spare := ⟨1⟩, occasion := ⟨newYear, "another"⟩ }
    let read : Incoming := .ofJson "GET" "/course/algebra" ""
    let next := retitled.leaves store
    (retitled.response store).status = 200 ∧ again.response next = retitled.response store ∧
    ∃ (course : Course) (document : Document) (version : Int64),
      next.findOne coursesAt (.byId "algebra") = some document ∧
      document.get? versionKey = some (.int64 version) ∧
      again.leaves next = next.update coursesAt (Store.changeFirst (.byId "algebra") fun _ =>
        document.insert versionKey (.int64 (version + 1))) ∧
      (version + 1).toInt = version.toInt + 1 ∧
      read.answer (again.leaves next) =
        (read.dressed (Reply.success course).response, again.leaves next) := by
  intro store again read next
  have put : retitled.Addresses .put (.course "algebra") :=
    { path := ⟨.course "algebra", by decide +kernel, by decide +kernel⟩
      method := rfl }
  have get : read.Addresses .get (.course "algebra") :=
    { path := ⟨.course "algebra", by decide +kernel, by decide +kernel⟩
      method := rfl }
  have success : (retitled.response store).status = 200 := by decide +kernel
  obtain ⟨course, document, version, _, told, found, counted, left, number, reads⟩ :=
    @updates_are_idempotent _ retitled again _ _ _ _ put (.course "algebra") rfl rfl success
  exact ⟨success, told, course, document, version, found, counted, left, number (by decide) (by decide),
    (reads read get).2⟩

end Syllabus
