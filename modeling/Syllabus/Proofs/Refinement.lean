/-
**Operations on records keep a ledger.**

A store that was filled by the operations on records alone holds the records of a ledger as documents.
Each operation answers what it answers on the ledger, and leaves the records that it leaves there; so do
any number of them, one after another.

* `Entry.page` — the page of the entries of a namespace; `Store.Reflects` — a store and its ledger;
* `Records.clash?_eq` — which of the unique values of a record is held by another;
* `Records.agrees_create`, `Records.agrees_update` and the like — one operation on a namespace;
* `Store.Reflects.perform` — one errand; **`replies_eq`** — all errands of a run.
-/

import Mathlib.Data.List.Find
import Syllabus.Proofs.Keyed
import Syllabus.Proofs.Ledger
import Syllabus.Proofs.Undisturbed

namespace Syllabus

/-! ### Pages and entries -/

/-- The page of the entries of a namespace. -/
def Entry.page {ρ : Type} [Record ρ] (entries : List (Entry ρ)) : Page ρ :=
  entries.map fun entry => (entry.key, entry.record)

namespace Entry

variable {ρ : Type} [Record ρ] {entries : List (Entry ρ)}

theorem lookup_page (id : String) :
    (page entries).lookup id = (entries.find? (·.key == id)).map Entry.record := by
  induction entries with
  | nil => rfl
  | cons entry rest ih =>
    by_cases here : entry.key = id
    · simp [page, here]
    · rw [page, List.map_cons, List.lookup_cons, List.find?_cons, beq_false_of_ne (Ne.symm here),
        beq_false_of_ne here]
      exact ih

theorem page_changeAt {id : String} {change : Entry ρ → Entry ρ} {rewrite : ρ → ρ}
    (keyed : ∀ entry ∈ entries, entry.key = id → (change entry).key = id ∧
      (change entry).record = rewrite entry.record) :
    page (Store.Shelf.changeAt id change entries) = (page entries).changeAt id rewrite := by
  simp only [page, Store.Shelf.changeAt, Page.changeAt, List.map_map]
  refine List.map_congr_left fun entry member => ?_
  by_cases here : entry.key = id
  · obtain ⟨same, written⟩ := keyed entry member here
    simp [here, same, written]
  · simp [here]

theorem page_filter (distinct : (entries.map Entry.key).Nodup) (id : String) :
    page (entries.filter (·.key != id)) = (page entries).eraseP (·.1 == id) := by
  rw [← Store.Shelf.eraseP_eq_filter distinct, page, page, List.eraseP_map]
  rfl

/-- The entry is not the one excluded, and its document has the value in a field. -/
def answers (exclude : Option String) (field value : String) (entry : Entry ρ) : Bool :=
  decide (some entry.key ≠ exclude) && valueMatches (entry.document.get? field) (.string value)

end Entry

namespace Store

variable {ρ : Type} [Record ρ] {store : Store} {ns : Namespace} {entries : List (Entry ρ)}

/-- A program on records of a namespace answers as its counterpart on the page does, and leaves the
entries of the page that this leaves. -/
def Agrees {α : Type} (spare : ObjectId) (store : Store) (ns : Namespace)
    (program : StoreProgram StoreError α) (reply : Except StoreError α × Page ρ) : Prop :=
  ∃ entries : List (Entry ρ), (program.run (respond spare) store).1 = reply.1 ∧
    store.Turned (program.run (respond spare) store).2 ns entries ∧ Entry.page entries = reply.2

/-- A program that answers and leaves such entries. -/
theorem agrees_of_run {α : Type} {spare : ObjectId} {program : StoreProgram StoreError α}
    {answer : Except StoreError α} {next : Store}
    (ran : program.run (respond spare) store = (answer, next))
    (turned : store.Turned next ns entries) :
    store.Agrees spare ns program (answer, Entry.page entries) :=
  ⟨entries, by rw [ran], by rwa [ran], rfl⟩

/-- A program that leaves all documents. -/
theorem Shelf.agrees {α : Type} (shelf : store.Shelf ns entries) {spare : ObjectId}
    {program : StoreProgram StoreError α} {answer : Except StoreError α} {next : Store}
    (ran : program.run (respond spare) store = (answer, next))
    (same : ∀ other, next.documents other = store.documents other) :
    store.Agrees spare ns program (answer, Entry.page entries) :=
  agrees_of_run ran ⟨shelf.of_documents_eq (same ns), fun other _ => same other⟩

/-- Somebody holds a value exactly if an entry answers to it. -/
theorem Shelf.holders_iff (shelf : store.Shelf ns entries) (key value : String)
    (exclude : Option String) : 0 < store.count ns (.holders key value exclude) ↔
      entries.any (Entry.answers exclude key value) = true := by
  have same : (Filter.holders key value exclude).accepts ∘ Entry.document =
      Entry.answers (ρ := ρ) exclude key value := by
    funext entry
    cases exclude with
    | none => simp [Entry.answers, Filter.accepts, Filter.holders, Condition.holds]
    | some id =>
      have keyed : valueMatches (entry.document.get? idKey) (.string id) = (entry.key == id) := by
        simp [Entry.document, valueMatches, Bson.same]
      simp [Entry.answers, Filter.accepts, Filter.holders, Condition.holds, keyed, Bool.and_comm,
        beq_eq_decide]
  rw [count, shelf.documents, List.countP_map, same, List.countP_pos_iff, List.any_eq_true]

end Store

namespace Records

/-! ### Checks of values -/

section

variable {kind : RecordKind} {store : Store} {ns : Namespace} {entries : List (Entry kind.Carrier)}
  {spare : ObjectId}

/-- An entry has one of the values that are unique to a record exactly if its own record has it. -/
theorem answers_unique {record : kind.Carrier} {field value : String}
    (listed : (field, value) ∈ Record.uniqueFields record) (exclude : Option String)
    (entry : Entry kind.Carrier) :
    entry.answers exclude field value =
      decide (some entry.key ≠ exclude ∧ (field, value) ∈ Record.uniqueFields entry.record) := by
  have held : valueMatches (entry.document.get? field) (.string value) =
      decide ((field, value) ∈ Record.uniqueFields entry.record) := by
    cases kind with
    | user =>
      have claims : Record.uniqueFields entry.record =
          [("email", User.email entry.record), ("phone", User.phone entry.record)] := rfl
      rw [claims]
      rcases List.mem_cons.mp listed with same | other
      · cases same
        show valueMatches (some (.string (User.email entry.record))) (.string (User.email record)) = _
        simp [valueMatches, Bson.same, beq_eq_decide, eq_comm]
      · cases List.mem_singleton.mp other
        show valueMatches (some (.string (User.phone entry.record))) (.string (User.phone record)) = _
        simp [valueMatches, Bson.same, beq_eq_decide, eq_comm]
    | _ => cases listed
  rw [Entry.answers, held]
  simp

/-- Of values that are unique to a record, the same one clashes with the store and with the page. -/
theorem clash?_eq (shelf : store.Shelf ns entries) (exclude : Option String)
    {values : List (String × String)} {record : kind.Carrier}
    (listed : ∀ value ∈ values, value ∈ Record.uniqueFields record) :
    store.clash? ns exclude values = (Entry.page entries).clash? exclude values := by
  refine List.find?_congr fun value member => ?_
  show decide (0 < store.count ns (.holders value.1 value.2 exclude)) = _
  simp only [shelf.holders_iff, Bool.decide_eq_true, Entry.page, List.any_map]
  exact List.any_congr rfl fun entry => answers_unique (listed value member) exclude entry

/-- The unique values of a record that are set. -/
theorem claims_eq (record : kind.Carrier) :
    ((Record.uniqueFields record).filter fun (_, value) => !value.isEmpty) = Page.claims record := by
  refine List.filter_congr fun claim _ => ?_
  show (!claim.2.isEmpty) = decide (claim.2 ≠ "")
  by_cases unset : claim.2 = ""
  · simp [unset]
  · simp [unset, Bool.eq_false_iff.mpr (mt String.isEmpty_iff.mp unset)]

theorem introduced_eq (before after : kind.Carrier) :
    introduced before after = (Page.claims after).filter (· ∉ Record.uniqueFields before) := by
  rw [introduced, ← claims_eq, List.filter_filter]
  refine List.filter_congr fun claim _ => ?_
  simp [Bool.and_comm]

/-! ### Operations on a page -/

variable (shelf : store.Shelf ns entries)

include shelf

theorem agrees_get {template : kind.Carrier} (placed : Record.place template = .ok ns) :
    store.Agrees spare ns (get template)
      (Page.get ns (Record.id template) (Entry.page entries), Entry.page entries) := by
  refine shelf.agrees ?_ fun _ => rfl
  rw [run_get placed, Page.get, Entry.lookup_page, shelf.findOne]
  cases entries.find? (·.key == Record.id template) with
  | none => rfl
  | some entry =>
    refine Prod.ext ?_ rfl
    exact decode_stored ns entry.key entry.version entry.record

theorem agrees_list {template : kind.Carrier} (placed : Record.place template = .ok ns) :
    store.Agrees spare ns (list template)
      (.ok ((Entry.page entries).map (·.2)), Entry.page entries) := by
  refine shelf.agrees ?_ fun _ => rfl
  unfold list
  rw [placed]
  show (StoreProgram.call .list _ >>= _).run _ _ = _
  rw [StoreProgram.run_call_bind]
  simp only [Store.perform, shelf.documents, Program.run_ofExcept, decodeAll_documents, Entry.page,
    List.map_map]
  rfl

theorem agrees_validate {record : kind.Carrier} (placed : Record.place record = .ok ns) :
    store.Agrees spare ns (checkUnique record)
      (Page.validate record (Entry.page entries), Entry.page entries) := by
  have taken : entries.any (Entry.answers none idKey (Record.id record)) =
      (entries.find? (·.key == Record.id record)).isSome := by
    rw [List.isSome_find?]
    refine List.any_congr rfl fun entry => ?_
    simp [Entry.answers, Entry.document, valueMatches, Bson.same]
  refine shelf.agrees ?_ fun _ => rfl
  rw [run_checkUnique placed, claims_eq]
  show (if 0 < store.count ns (.holders idKey (Record.id record) none) then _ else _, store) = _
  simp only [shelf.holders_iff, taken]
  rw [Page.validate, Entry.lookup_page]
  cases entries.find? (·.key == Record.id record) with
  | some entry => rfl
  | none =>
    have unique : ∀ value ∈ Page.claims record, value ∈ Record.uniqueFields record :=
      fun value member => (List.mem_filter.mp member).1
    rw [clash?_eq shelf none unique]
    rfl

theorem agrees_create {record : kind.Carrier} (placed : Record.place record = .ok ns) :
    store.Agrees spare ns (create record) (Page.create ns record (Entry.page entries)) := by
  have ran := run_create placed spare store
  rw [Page.create, Entry.lookup_page]
  cases found : entries.find? (·.key == Record.id record) with
  | some entry =>
    have member := List.mem_of_find?_eq_some found
    have keyed : entry.key = Record.id record := by simpa using List.find?_some found
    obtain ⟨refused, same⟩ := shelf.insertOne_taken spare member keyed
    refine shelf.agrees (ran.trans (Prod.ext ?_ rfl)) same
    exact congrArg (Except.map _) refused
  | none =>
    have fresh : ∀ entry ∈ entries, entry.key ≠ Record.id record := by
      simpa using List.find?_eq_none.mp found
    obtain ⟨accepted, last⟩ := shelf.insertOne_fresh spare placed fresh
    have added : Entry.page (entries ++ [⟨1, record⟩]) =
        Entry.page entries ++ [(Record.id record, record)] := List.map_append
    show store.Agrees spare ns _ (.ok (), Entry.page entries ++ [(Record.id record, record)])
    rw [← added]
    refine Store.agrees_of_run (ran.trans (Prod.ext ?_ rfl)) ⟨last, fun other different => ?_⟩
    · exact congrArg (Except.map _) accepted
    · exact Store.documents_insertOne_of_ne different store spare _

theorem agrees_delete {template : kind.Carrier} (placed : Record.place template = .ok ns) :
    store.Agrees spare ns (delete template)
      (Page.delete ns (Record.id template) (Entry.page entries)) := by
  obtain ⟨answer, left⟩ := shelf.deleteOne (Record.id template)
  have ran : (delete template).run (Store.respond spare) store =
      (if entries.any (·.key == Record.id template) then .ok ()
        else .error (.notFound ns (Record.id template)),
      (store.deleteOne ns (.byId (Record.id template))).2) := by
    unfold delete
    rw [placed]
    show (StoreProgram.call .delete _ >>= _).run _ _ = _
    rw [StoreProgram.run_call_bind]
    simp only [Store.perform, answer]
    split <;> rfl
  have elsewhere : ∀ other, other ≠ ns →
      (store.deleteOne ns (.byId (Record.id template))).2.documents other = store.documents other :=
    fun other different => Store.documents_respond_of_ne
      ⟨.delete, .deleteOne ns (.byId (Record.id template))⟩
      (fun written target => (Option.some.inj target).symm) different spare store
  rw [← List.isSome_find?] at ran
  rw [Page.delete, Entry.lookup_page]
  cases found : entries.find? (·.key == Record.id template) with
  | none =>
    rw [found] at ran
    have all : entries.filter (·.key != Record.id template) = entries := by
      rw [List.filter_eq_self]
      simpa using found
    rw [all] at left
    exact Store.agrees_of_run ran ⟨left, elsewhere⟩
  | some entry =>
    rw [found] at ran
    rw [← Entry.page_filter shelf.distinct]
    exact Store.agrees_of_run ran ⟨left, elsewhere⟩

/-- An update of an entry. -/
theorem run_update_of_mem {change : kind.Carrier} (placed : Record.place change = .ok ns)
    {entry : Entry kind.Carrier} (member : entry ∈ entries) (keyed : entry.key = Record.id change) :
    (update change).run (Store.respond spare) store =
      match (Entry.page entries).clash? (some (Record.id change))
          (introduced entry.record (merge entry.record change)) with
      | some (field, value) => (.error (.conflict field value), store)
      | none => (.ok (merge entry.record change),
        (store.replaceOne ns (.guard entry.key (.int64 entry.version))
          (entry.merged change).document).2) := by
  have has : store.Has ns (Record.id change) entry.version entry.record :=
    keyed ▸ shelf.has_of_mem member
  have unique : ∀ value ∈ introduced entry.record (merge entry.record change),
      value ∈ Record.uniqueFields (merge entry.record change) :=
    fun value member => (List.mem_filter.mp member).1
  rw [run_update_of_has placed has, clash?_eq shelf _ unique]
  cases (Entry.page entries).clash? _ _ with
  | some claim => rfl
  | none =>
    have written : Entry.document (entry.merged change) =
        stored (Record.id change) (entry.version + 1) (merge entry.record change) := by
      rw [Entry.document, Entry.key_merged, keyed]
      rfl
    rw [keyed, written, Store.replaceOne_eq_of_has has]

theorem agrees_update {change : kind.Carrier} (placed : Record.place change = .ok ns) :
    store.Agrees spare ns (update change) (Page.update ns change (Entry.page entries)) := by
  rw [Page.update, Entry.lookup_page]
  cases found : entries.find? (·.key == Record.id change) with
  | none =>
    refine shelf.agrees ?_ fun _ => rfl
    rw [run_update placed, shelf.findOne, found]
    rfl
  | some entry =>
    have member := List.mem_of_find?_eq_some found
    have keyed : entry.key = Record.id change := by simpa using List.find?_some found
    have ran : (update change).run (Store.respond spare) store = _ :=
      run_update_of_mem shelf placed member keyed
    rw [introduced_eq] at ran
    simp only [Option.map_some]
    revert ran
    cases (Entry.page entries).clash? _ _ with
    | some claim => exact fun ran => shelf.agrees ran fun _ => rfl
    | none =>
      intro ran
      have placed : Record.place (entry.merged change).record = .ok ns :=
        (place_merge entry.record change).trans (shelf.placed entry member)
      have changed := (shelf.replaceOne member (entry.key_merged change) placed).2
      have rewritten : (Entry.page entries).changeAt (Record.id change)
          (fun _ => merge entry.record change) =
          Entry.page (Store.Shelf.changeAt entry.key (Entry.merged change) entries) := by
        rw [keyed]
        refine (Entry.page_changeAt fun other known same => ⟨(Entry.key_merged ..).trans same, ?_⟩).symm
        cases Store.Shelf.eq_of_key_eq shelf.distinct known member (same.trans keyed.symm)
        rfl
      rw [rewritten]
      refine Store.agrees_of_run ran ⟨changed, fun other different => ?_⟩
      exact Store.documents_respond_of_ne
        ⟨.update, .replaceOne ns (.guard entry.key (.int64 entry.version))
          (entry.merged change).document⟩
        (fun written target => (Option.some.inj target).symm) different spare store

theorem agrees_sync (listing : Listing kind) (membership : Membership) {parent : kind.Carrier}
    (child : String) (placed : Record.place parent = .ok ns) :
    store.Agrees spare ns (sync parent membership listing.field child)
      (Page.sync ns listing (Record.id parent) membership child (Entry.page entries)) := by
  have ran : (sync parent membership listing.field child).run (Store.respond spare) store = _ :=
    run_sync placed membership listing.field child
  rw [Page.sync, Entry.lookup_page]
  cases found : entries.find? (·.key == Record.id parent) with
  | none =>
    have nobody : store.findOne ns (.byId (Record.id parent)) = none := by
      rw [shelf.findOne, found]
      rfl
    refine shelf.agrees (ran.trans ?_) fun _ => rfl
    rw [Store.editMembership, nobody]
  | some entry =>
    have member := List.mem_of_find?_eq_some found
    have keyed : entry.key = Record.id parent := by simpa using List.find?_some found
    obtain ⟨accepted, changed⟩ := shelf.editMembership listing membership child member
    rw [keyed] at accepted changed
    have elsewhere : ∀ other, other ≠ ns → (store.editMembership ns (Record.id parent) membership
        listing.field (.string child)).2.documents other = store.documents other :=
      fun other different => Store.documents_respond_of_ne
        ⟨.sync, .editMembership ns (Record.id parent) membership listing.field (.string child)⟩
        (fun written target => (Option.some.inj target).symm) different spare store
    have rewritten : (Entry.page entries).changeAt (Record.id parent) (listing.edited membership child)
        = Entry.page (Store.Shelf.changeAt (Record.id parent)
          (Entry.edited listing membership child) entries) :=
      (Entry.page_changeAt fun entry _ keyed => ⟨(Entry.key_edited ..).trans keyed, rfl⟩).symm
    show store.Agrees spare ns _ (.ok (), (Entry.page entries).changeAt _ _)
    rw [rewritten]
    exact Store.agrees_of_run (ran.trans (Prod.ext accepted rfl)) ⟨changed, elsewhere⟩

end

end Records

/-! ### Stores and ledgers -/

theorem RecordKind.home_of_place {kind : RecordKind} {record : kind.Carrier} {ns : Namespace}
    (placed : Record.place record = .ok ns) : ∃ c, ns = kind.home c := by
  have kinds : Record.kind kind.Carrier = kind := by cases kind <;> rfl
  unfold Record.place RecordKind.resolve at placed
  rw [kinds] at placed
  split at placed
  · next bound =>
    split at placed
    · cases placed
    · next c _ =>
      refine ⟨c, ?_⟩
      rw [RecordKind.home, if_pos bound]
      split at placed
      · cases placed
      · unfold checkDatabaseName at placed
        split at placed
        · exact (Except.ok.inj placed).symm
        · cases placed
  · next shared =>
    refine ⟨"", ?_⟩
    rw [RecordKind.home, if_neg shared]
    exact (Except.ok.inj placed).symm

namespace Store

/-- The store holds the records of the ledger, and nothing else in the namespaces of records. -/
def Reflects (store : Store) (ledger : Ledger) : Prop :=
  ∀ kind c, ∃ entries : List (Entry (RecordKind.Carrier kind)),
    store.Shelf (kind.home c) entries ∧ ledger.page kind (kind.home c) = Entry.page entries

namespace Reflects

variable {store next : Store} {ledger : Ledger} {spare : ObjectId}

theorem empty : Store.empty.Reflects .empty :=
  fun _ _ => ⟨[], .nil rfl, rfl⟩

/-- One namespace has turned, and so has its page. -/
theorem turn (reflects : store.Reflects ledger) {kind : RecordKind} {c : String}
    {entries : List (Entry kind.Carrier)} (turned : store.Turned next (kind.home c) entries) :
    next.Reflects (ledger.turn kind (kind.home c) (Entry.page entries)) := by
  intro other d
  by_cases here : other.home d = kind.home c
  · cases RecordKind.eq_of_home_eq here
    refine ⟨entries, ?_, ?_⟩
    · rw [here]
      exact turned.shelf
    · rw [here, Ledger.turn_self]
  · obtain ⟨others, shelf, page⟩ := reflects other d
    exact ⟨others, shelf.of_documents_eq (turned.elsewhere _ here),
      (Ledger.turn_of_ne here _ _).trans page⟩

/-- A program that agrees with its counterpart on every page agrees with it on the ledger. -/
theorem onPage (reflects : store.Reflects ledger) {kind : RecordKind} {template : kind.Carrier}
    {α : Type} {program : StoreProgram StoreError α}
    {work : Namespace → Page kind.Carrier → Except StoreError α × Page kind.Carrier}
    (placeless : ∀ error, Record.place template = .error error → program = .fail error)
    (agrees : ∀ ns (entries : List (Entry kind.Carrier)), Record.place template = .ok ns →
      store.Shelf ns entries → store.Agrees spare ns program (work ns (Entry.page entries))) :
    (program.run (respond spare) store).1 = (ledger.onPage kind template work).1 ∧
      (program.run (respond spare) store).2.Reflects (ledger.onPage kind template work).2 := by
  unfold Ledger.onPage
  cases place : Record.place template with
  | error error =>
    rw [placeless error place]
    exact ⟨rfl, reflects⟩
  | ok ns =>
    obtain ⟨c, rfl⟩ := RecordKind.home_of_place place
    obtain ⟨entries, shelf, page⟩ := reflects kind c
    obtain ⟨left, answer, turned, pages⟩ := agrees _ entries place shelf
    simp only [page, ← pages]
    exact ⟨answer, reflects.turn turned⟩

/-- **An errand answers as on the ledger, and leaves the records that it leaves there.** -/
theorem perform (reflects : store.Reflects ledger) (spare : ObjectId) (errand : Errand) :
    (errand.program.run (respond spare) store).1 = (ledger.perform errand).1 ∧
      (errand.program.run (respond spare) store).2.Reflects (ledger.perform errand).2 := by
  cases errand with
  | create kind record =>
    refine reflects.onPage (fun error placeless => ?_) fun _ _ placed shelf =>
      Records.agrees_create shelf placed
    rw [Errand.program, Records.create, placeless]
    rfl
  | get kind template =>
    refine reflects.onPage (fun error placeless => ?_) fun _ _ placed shelf =>
      Records.agrees_get shelf placed
    rw [Errand.program, Records.get, placeless]
    rfl
  | update kind change =>
    refine reflects.onPage (fun error placeless => ?_) fun _ _ placed shelf =>
      Records.agrees_update shelf placed
    rw [Errand.program, Records.update, placeless]
    rfl
  | delete kind template =>
    refine reflects.onPage (fun error placeless => ?_) fun _ _ placed shelf =>
      Records.agrees_delete shelf placed
    rw [Errand.program, Records.delete, placeless]
    rfl
  | list kind template =>
    refine reflects.onPage (fun error placeless => ?_) fun _ _ placed shelf =>
      Records.agrees_list shelf placed
    rw [Errand.program, Records.list, placeless]
    rfl
  | validate kind record =>
    refine reflects.onPage (fun error placeless => ?_) fun _ _ placed shelf =>
      Records.agrees_validate shelf placed
    rw [Errand.program, Records.checkUnique, placeless]
    rfl
  | sync kind listing membership parent child =>
    refine reflects.onPage (fun error placeless => ?_) fun _ _ placed shelf =>
      Records.agrees_sync shelf listing membership child placed
    rw [Errand.program, Records.sync, placeless]
    rfl

end Reflects

/-- What comes back of errands, one after another, each with a spare key. -/
def replies (store : Store) : List (ObjectId × Errand) → List Errand.Reply
  | [] => []
  | (spare, errand) :: rest =>
    let (answer, store) := errand.program.run (respond spare) store
    ⟨errand, answer⟩ :: store.replies rest

/-- A run of errands gets the answers of the ledger. -/
theorem Reflects.replies {store : Store} {ledger : Ledger} (reflects : store.Reflects ledger)
    (errands : List (ObjectId × Errand)) :
    store.replies errands = ledger.replies (errands.map Prod.snd) := by
  induction errands generalizing store ledger with
  | nil => rfl
  | cons first rest ih =>
    obtain ⟨spare, errand⟩ := first
    obtain ⟨answer, next⟩ := reflects.perform spare errand
    show ⟨errand, _⟩ :: Store.replies _ rest =
      ⟨errand, (ledger.perform errand).1⟩ :: (ledger.perform errand).2.replies (rest.map Prod.snd)
    rw [answer, ih next]

end Store

/-- No errand on a ledger fails for a version or a document. -/
theorem Ledger.isInternal_of_mem_replies {ledger : Ledger} {errands : List Errand}
    {reply : Errand.Reply} (member : reply ∈ ledger.replies errands) {error : StoreError}
    (failed : reply.2 = .error error) : error.isInternal = false := by
  induction errands generalizing ledger with
  | nil => cases member
  | cons errand rest ih =>
    rcases List.mem_cons.mp member with rfl | later
    · exact isInternal_of_perform failed
    · exact ih later

/-- **The operations on records keep a ledger.** Whatever errands are run one after another, with records
of any kinds, on a store that was empty at first, what comes back is what the ledger answers: the same
values and the same errors. None fails for a version that was overwritten or for a document that does
not decode. -/
theorem replies_eq (errands : List (ObjectId × Errand)) :
    Store.empty.replies errands = Ledger.empty.replies (errands.map Prod.snd) ∧
      ∀ reply ∈ Store.empty.replies errands, ∀ error, reply.2 = .error error →
        error.isInternal = false := by
  have same := Store.Reflects.empty.replies errands
  refine ⟨same, fun reply member error failed => ?_⟩
  rw [same] at member
  exact Ledger.isInternal_of_mem_replies member failed

end Syllabus
