/-
**Operations that nobody disturbs.**

Where nobody else is at a store, an operation is one function of the store that it starts on: every call
is answered by the store that the call before has left.

* `Program.run_ofExcept`, `StoreProgram.run_call`, `run_call_bind` — a call, and what follows on it;
* `Filter.holders`, `Records.run_ensureUnused` — a check of a value counts who else holds it;
* `Store.clash?`, `Records.run_ensureAllUnused` — a check of values fails at the first that is held;
* `Records.run_checkUnique`, `Records.lacks_of_checkUnique` — the check of a new record;
* `Records.run_get`, `Records.run_sync`, **`Records.run_update`** — whole operations;
* `Records.run_get_of_has`, `Records.run_update_of_has` — operations on a record that is there;
  `Records.run_create_of_lacks` — the creation of one that is not.
-/

import Syllabus.Proofs.OneRecord

namespace Syllabus

/-! ### Runs of single calls -/

namespace Program

variable {Q : Type} {A : Q → Type} {ε α σ : Type}

@[simp]
theorem run_ofExcept (respond : (question : Q) → σ → A question × σ) (value : Except ε α) (state : σ) :
    (ofExcept value : Program Q A ε α).run respond state = (value, state) := by
  cases value <;> rfl

end Program

namespace StoreProgram

variable {α : Type} (spare : ObjectId) (operation : Operation) (request : Request) (store : Store)

theorem run_call :
    (call operation request).run (Store.respond spare) store = store.perform spare request := by
  rw [call, Program.run_bind]
  simp only [Program.question, Program.run, Program.run_ofExcept, Store.respond]

theorem run_call_bind (next : request.Answer → StoreProgram StoreError α) :
    (call operation request >>= next).run (Store.respond spare) store =
      match store.perform spare request with
      | (.ok answer, store) => (next answer).run (Store.respond spare) store
      | (.error error, store) => (.error error, store) := by
  rw [Program.run_bind, run_call]
  generalize store.perform spare request = reply
  obtain ⟨answer, next⟩ := reply
  cases answer <;> rfl

end StoreProgram

/-! ### Checks of values -/

/-- The documents that have a value under a key, other than the one with the key that is excluded. -/
def Filter.holders (key value : String) : Option String → Filter
  | none => ⟨[(key, .eq (.string value))]⟩
  | some id => ⟨[(key, .eq (.string value)), (idKey, .ne (.string id))]⟩

/-- The first of the values that a document has, other than the one with the key that is excluded. -/
def Store.clash? (store : Store) (ns : Namespace) (exclude : Option String)
    (values : List (String × String)) : Option (String × String) :=
  values.find? fun (field, value) => 0 < store.count ns (.holders field value exclude)

namespace Records

variable {store : Store} {ns : Namespace} {spare : ObjectId}

/-- A check of a value counts who else holds it. -/
theorem ensureUnused_eq (ns : Namespace) (field key value : String) (exclude : Option String) :
    ensureUnused ns field key value exclude =
      StoreProgram.call .validate (.count ns (.holders key value exclude)) >>= fun holders =>
        if 0 < holders then .fail (.conflict field value) else .done () := by
  cases exclude <;> rfl

theorem run_ensureUnused (field key value : String) (exclude : Option String) :
    (ensureUnused ns field key value exclude).run (Store.respond spare) store =
      (if 0 < store.count ns (.holders key value exclude) then .error (.conflict field value)
        else .ok (), store) := by
  rw [ensureUnused_eq, StoreProgram.run_call_bind]
  simp only [Store.perform]
  split <;> rfl

/-- A check of values fails at the first that another document has. -/
theorem run_ensureAllUnused (exclude : Option String) (values : List (String × String)) :
    (ensureAllUnused ns exclude values).run (Store.respond spare) store =
      (match store.clash? ns exclude values with
        | some (field, value) => .error (.conflict field value)
        | none => .ok (), store) := by
  induction values with
  | nil => rfl
  | cons claim rest ih =>
    obtain ⟨field, value⟩ := claim
    rw [ensureAllUnused, Program.run_bind, run_ensureUnused, Store.clash?, List.find?_cons]
    by_cases held : 0 < store.count ns (.holders field value exclude)
    · simp only [held, if_true, decide_true]
    · simp only [held, if_false, decide_false]
      exact ih

/-- A check of a new record fails if its id is taken, or another value that no two records may share. -/
theorem run_checkUnique {ρ : Type} [Record ρ] {record : ρ} {store : Store} {ns : Namespace}
    {spare : ObjectId} (placed : Record.place record = .ok ns) :
    (checkUnique record).run (Store.respond spare) store =
      (if 0 < store.count ns (.byId (Record.id record)) then
        .error (.conflict (Record.idField ρ) (Record.id record))
      else match store.clash? ns none
          ((Record.uniqueFields record).filter fun (_, value) => !value.isEmpty) with
        | some (field, value) => .error (.conflict field value)
        | none => .ok (), store) := by
  unfold checkUnique
  rw [placed]
  show (ensureUnused ns _ _ _ none >>= _).run _ _ = _
  rw [Program.run_bind, run_ensureUnused]
  by_cases taken : 0 < store.count ns (.byId (Record.id record))
  · have held : 0 < store.count ns (.holders idKey (Record.id record) none) := taken
    simp only [held, taken, if_true]
  · have free : ¬ 0 < store.count ns (.holders idKey (Record.id record) none) := taken
    simp only [free, taken, if_false]
    exact run_ensureAllUnused none _

/-- A new record that passes the check has an id that nobody answers to. -/
theorem lacks_of_checkUnique {ρ : Type} [Record ρ] {record : ρ} {next : Store}
    (placed : Record.place record = .ok ns)
    (ran : (checkUnique record).run (Store.respond spare) store = (.ok (), next)) :
    next = store ∧ store.Lacks ns (Record.id record) := by
  rw [run_checkUnique placed, Prod.mk.injEq] at ran
  obtain ⟨passed, same⟩ := ran
  refine ⟨same.symm, Store.lacks_of_count_eq_zero (Nat.eq_zero_of_not_pos fun taken => ?_)⟩
  rw [if_pos taken] at passed
  cases passed

end Records

/-! ### Whole operations -/

namespace Records

variable {ρ : Type} [Record ρ] {store : Store} {ns : Namespace} {spare : ObjectId}

/-- What is read under a key is the record of the first document found there. -/
theorem run_get {template : ρ} (placed : Record.place template = .ok ns) :
    (get template).run (Store.respond spare) store =
      (match store.findOne ns (.byId (Record.id template)) with
        | none => .error (.notFound ns (Record.id template))
        | some document => decode ns document, store) := by
  unfold get
  rw [placed]
  show (StoreProgram.call .get _ >>= _).run _ _ = _
  rw [StoreProgram.run_call_bind]
  simp only [Store.perform]
  cases store.findOne ns (.byId (Record.id template)) with
  | none => rfl
  | some document => exact Program.run_ofExcept _ _ store

/-- A record that is there is read under its key. -/
theorem run_get_of_has [LawfulRecord ρ] {template record : ρ} {version : Int64}
    (placed : Record.place template = .ok ns)
    (has : store.Has ns (Record.id template) version record) :
    (get template).run (Store.respond spare) store = (.ok record, store) := by
  rw [run_get placed, Store.findOne_of_has has]
  exact congrArg (·, store) (decode_stored ..)

/-- A record is created under a key that nobody answers to. -/
theorem run_create_of_lacks {record : ρ} (placed : Record.place record = .ok ns)
    (lacks : store.Lacks ns (Record.id record)) :
    ∃ next, (create record).run (Store.respond spare) store = (.ok (), next) ∧
      next.Has ns (Record.id record) 1 record ∧
      ∀ other, other ≠ ns → next.documents other = store.documents other := by
  obtain ⟨accepted, has⟩ := Store.insertOne_of_lacks lacks spare 1 record
  refine ⟨_, run_create placed spare store |>.trans ?_, has, fun other apart =>
    Store.documents_insertOne_of_ne apart store spare _⟩
  rw [accepted]
  rfl

/-- An edit of a membership list is one call. -/
theorem run_sync {parent : ρ} (placed : Record.place parent = .ok ns) (membership : Membership)
    (field child : String) :
    (sync parent membership field child).run (Store.respond spare) store =
      store.editMembership ns (Record.id parent) membership field (.string child) := by
  unfold sync
  rw [placed]
  exact StoreProgram.run_call spare .sync _ store

/-- **An update is one function of the store.** -/
theorem run_update {change : ρ} (placed : Record.place change = .ok ns) :
    (update change).run (Store.respond spare) store =
      match store.findOne ns (.byId (Record.id change)) with
      | none => (.error (.notFound ns (Record.id change)), store)
      | some document =>
        match (Record.ofDocument document : Except Fault ρ) with
        | .error fault => (.error (.decode ns (faultText fault)), store)
        | .ok existing =>
          match store.clash? ns (some (Record.id change))
              (introduced existing (merge existing change)) with
          | some (field, value) => (.error (.conflict field value), store)
          | none =>
            let (replaced, next) := store.replaceOne ns
              (.guard (Record.id change) document.readVersion)
              (stored (Record.id change) (document.version + 1) (merge existing change))
            (if replaced = 0 then
              .error (.versionConflict ns (Record.id change) document.version)
            else .ok (merge existing change), next) := by
  unfold update
  rw [placed]
  show (StoreProgram.call .update _ >>= _).run _ _ = _
  rw [StoreProgram.run_call_bind]
  simp only [Store.perform]
  cases store.findOne ns (.byId (Record.id change)) with
  | none => rfl
  | some document =>
    show (Program.ofExcept (decode ns document) >>= _).run _ _ = _
    dsimp only [decode]
    cases (Record.ofDocument document : Except Fault ρ) with
    | error fault => rfl
    | ok existing =>
      show (ensureAllUnused ns _ (introduced existing (merge existing change)) >>= _).run _ _ = _
      rw [Program.run_bind, run_ensureAllUnused]
      dsimp only
      cases store.clash? ns _ _ with
      | some claim => rfl
      | none =>
        show (StoreProgram.call .update (.replaceOne ns (.guard _ document.readVersion)
          (stored _ (document.version + 1) _)) >>= _).run _ _ = _
        rw [StoreProgram.run_call_bind]
        simp only [Store.perform]
        split <;> rfl

/-- An update of a record that is there. -/
theorem run_update_of_has [LawfulRecord ρ] {version : Int64} {existing change : ρ}
    (placed : Record.place change = .ok ns)
    (has : store.Has ns (Record.id change) version existing) :
    (update change).run (Store.respond spare) store =
      match store.clash? ns (some (Record.id change))
          (introduced existing (merge existing change)) with
      | some (field, value) => (.error (.conflict field value), store)
      | none => (.ok (merge existing change), store.update ns (Store.changeFirst (.byId (Record.id change))
          fun _ => stored (Record.id change) (version + 1) (merge existing change))) := by
  rw [run_update placed, Store.findOne_of_has has]
  simp only [ofDocument_stored, readVersion_stored, version_stored, Store.replaceOne_eq_of_has has,
    Nat.one_ne_zero, if_false]

end Records

end Syllabus
