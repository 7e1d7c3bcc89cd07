/-
**Edits of membership lists on a database server.**

A server knows no edit of a list that also takes a missing or null field, so such an edit is sent as
one command or two, each on the first document that its query finds. Here it is said when this comes
to the same as the edit that the document store makes itself.

* `Document.Countable` — a version that one more change can be counted on;
* `Mongo.applyOperators_counted` — a change of a field, and its version counted;
* `Mongo.serve_update_found`, `Mongo.serve_update_missed` — a command on one document, or on none;
* `Mongo.run_push`, `Mongo.run_pull` — the edits, command by command;
* **`Mongo.editMembership_agrees_iff`** — server and store agree, but on a list that holds a null,
  where the server sets the list anew.
-/

import Syllabus.Mongo.Client
import Syllabus.Mongo.Server
import Syllabus.Proofs.OneDocument

namespace Syllabus

/-- Adding to a number of 64 bits, as long as it fits. -/
theorem toInt_add_ofNat {number : Int64} {more : Nat}
    (fits : number.toInt + more ≤ Int64.maxValue.toInt) :
    (number + Int64.ofNat more).toInt = number.toInt + more := by
  have least := number.le_toInt
  have greatest : Int64.maxValue.toInt = 2 ^ 63 - 1 := Int64.toInt_maxValue
  have size : Int64.size = 2 ^ 64 := rfl
  rw [Int64.toInt_add, Int64.toInt_ofNat', size, Int.add_bmod_bmod]
  exact Int.bmod_eq_of_le (by omega) (by omega)

theorem toInt_succ_of_lt {number : Int64} (small : number < Int64.maxValue) :
    (number + 1).toInt = number.toInt + 1 := by
  have below : number.toInt < Int64.maxValue.toInt := Int64.lt_iff_toInt_lt.mp small
  exact @toInt_add_ofNat number 1 (by omega)

/-- The document counts no version yet, or has a whole number for one. -/
def Document.CountsVersion (document : Document) : Prop :=
  match document.get? versionKey with
  | none | some (.int64 _) | some (.int32 _) => True
  | some _ => False

/-- The document counts no version yet, or one that can be counted further. -/
def Document.Countable (document : Document) : Prop :=
  match document.get? versionKey with
  | none => True
  | some (.int64 version) => version < Int64.maxValue
  | some (.int32 _) => True
  | some _ => False

theorem Document.Countable.counts {document : Document} (countable : document.Countable) :
    document.CountsVersion := by
  unfold Document.Countable at countable
  unfold Document.CountsVersion
  split at countable <;> simp_all

/-- The field is a list that holds a null. -/
def Document.ListsNull (field : String) (document : Document) : Prop :=
  ∃ items, document.get? field = some (.array items) ∧ items.any (·.same .null) = true

namespace Mongo

/-! ### One document -/

section Document

variable {document : Document} {field : String}

theorem increased_of_counts (counts : document.CountsVersion) :
    increased 1 (document.get? versionKey) = .ok (.int64 (document.version + 1)) := by
  unfold Document.CountsVersion at counts
  unfold Document.version
  split at counts
  · next absent => rw [absent]; rfl
  · next version held => rw [held]; rfl
  · next version held => rw [held]; rfl
  · cases counts

/-- Counting a change is the last thing that a change of a field does. -/
theorem applyOperators_counted {operator : String} {argument : Bson} {changed : Document}
    (applied : applyOperator operator field argument document = .ok changed)
    (counts : document.CountsVersion)
    (still : changed.get? versionKey = document.get? versionKey) :
    applyOperators (versionedChange operator field argument) document = .ok changed.bumped := by
  have counted : applyOperator incOperator versionKey (.int64 1) changed = .ok changed.bumped := by
    have version : changed.version = document.version := by
      rw [Document.version, Document.version, still]
    have apart : incOperator ≠ setOperator ∧ incOperator ≠ pushOperator ∧
        incOperator ≠ pullOperator := by decide
    simp only [applyOperator, apart, if_false, if_true]
    rw [still, increased_of_counts counts, ← version]
    rfl
  simp only [versionedChange, applyOperators, applied, counted]

theorem applyOperators_refused {operator : String} {argument : Bson} {code : Int}
    (refused : applyOperator operator field argument document = .error code) :
    applyOperators (versionedChange operator field argument) document = .error code := by
  simp only [versionedChange, applyOperators, refused]

theorem applyOperator_push (field : String) (element : Bson) (document : Document) :
    applyOperator pushOperator field element document =
      (pushed element (document.get? field)).map (document.insert field ·) := by
  have apart : pushOperator ≠ setOperator := by decide
  simp [applyOperator, apart]

theorem applyOperator_pull (field : String) (element : Bson) (document : Document) :
    applyOperator pullOperator field element document =
      (pulled element (document.get? field)).map fun value => match value with
        | some value => document.insert field value
        | none => document := by
  have apart : pullOperator ≠ setOperator ∧ pullOperator ≠ pushOperator := by decide
  exact (if_neg apart.1).trans ((if_neg apart.2).trans (if_pos rfl))

/-- The three changes of a field are made of operators. -/
theorem applyChange_versionedChange {operator : String} (argument : Bson)
    (known : operator ∈ [setOperator, pushOperator, pullOperator]) :
    applyChange (versionedChange operator field argument) document =
      applyOperators (versionedChange operator field argument) document := by
  have dollar : ∀ operator ∈ [setOperator, pushOperator, pullOperator],
      operator.startsWith "$" = true := by decide +kernel
  unfold applyChange
  rw [if_pos]
  exact dollar operator known

end Document

/-! ### One command -/

section Command

variable {store : Store} {ns : Namespace} {id field : String} {query change document : Document}
  {documents front back : List Document}

theorem asksAll_byId (id : String) (document : Document) :
    Filter.asksAll (byId id) document = (Filter.byId id).accepts document := by
  simp [Filter.asksAll, byId, Filter.asks, Filter.accepts, Filter.byId, Condition.holds]

/-- A query for a key and a value of another field. -/
theorem asksAll_insert_byId (apart : field ≠ idKey) (asked : Bson) (id : String)
    (document : Document) : Filter.asksAll (Document.insert field asked (byId id)) document =
      ((Filter.byId id).accepts document && Filter.asks (document.get? field) asked) := by
  rw [← asksAll_byId]
  simp [byId, Document.insert, apart.symm, Filter.asksAll]

theorem changeFirst_missed {change : Document → Except Int Document}
    (unasked : ∀ document ∈ documents, Filter.asksAll query document = false) :
    changeFirst query change documents = .ok (0, documents) := by
  induction documents with
  | nil => rfl
  | cons document rest ih =>
    have here := unasked document List.mem_cons_self
    have rest := ih fun other member => unasked other (List.mem_cons_of_mem _ member)
    simp [changeFirst, here, rest, Except.map]

theorem changeFirst_found {change : Document → Except Int Document}
    (unasked : ∀ document ∈ front, Filter.asksAll query document = false)
    (asked : Filter.asksAll query document = true) (back : List Document) :
    changeFirst query change (front ++ document :: back) =
      (change document).map fun changed => (1, front ++ changed :: back) := by
  induction front with
  | nil => simp [changeFirst, asked]
  | cons first front ih =>
    have here := unasked first List.mem_cons_self
    have rest := ih fun other member => unasked other (List.mem_cons_of_mem _ member)
    rw [List.cons_append, changeFirst, here, rest]
    cases change document <;> rfl

/-- A command whose query finds nothing leaves the store. -/
theorem serve_update_missed
    (unasked : ∀ document ∈ store.documents ns, Filter.asksAll query document = false) :
    serve (.update ns query change) store = (.counted 0, store) := by
  simp only [serve, changeFirst_missed unasked]
  rw [Store.update_self rfl]

/-- A command whose query finds the one document with the key changes this document. -/
theorem serve_update_found (only : store.Only ns id document)
    (within : ∀ other, (Filter.byId id).accepts other = false → Filter.asksAll query other = false)
    (asked : Filter.asksAll query document = true) :
    serve (.update ns query change) store =
      match applyChange change document with
      | .ok changed =>
        (.counted 1, store.update ns (Store.changeFirst (.byId id) fun _ => changed))
      | .error code => (.writeError code, store) := by
  obtain ⟨front, back, strangers, _, answers, held⟩ := only
  have unasked : ∀ other ∈ front, Filter.asksAll query other = false :=
    fun other member => within other (strangers other member)
  simp only [serve, held, changeFirst_found unasked asked]
  cases applyChange change document with
  | error code => rfl
  | ok changed =>
    have same : Store.changeFirst (.byId id) (fun _ => changed) (store.documents ns) =
        front ++ changed :: back := by
      rw [held, Store.changeFirst_append strangers, Store.changeFirst, if_pos answers]
    simp only [Except.map]
    rw [Store.update_congr (Store.changeFirst (.byId id) fun _ => changed) same.symm]

/-- A command that asks for the one document with the key, and more than it has, changes nothing. -/
theorem serve_update_unmet (only : store.Only ns id document)
    (within : ∀ other, (Filter.byId id).accepts other = false → Filter.asksAll query other = false)
    (unasked : Filter.asksAll query document = false) :
    serve (.update ns query change) store = (.counted 0, store) := by
  refine serve_update_missed fun other member => ?_
  cases answers : (Filter.byId id).accepts other with
  | false => exact within other answers
  | true =>
    rw [only.eq_of_mem member answers]
    exact unasked

theorem run_send (command : Command) (store : Store) :
    (send command).run serve store =
      match serve command store with
      | (.counted number, store) => (.ok number, store)
      | (reply, store) => (.error (failure reply), store) := by
  simp only [send, Program.run_bind, Program.question, Program.run]
  generalize serve command store = replied
  obtain ⟨reply, store⟩ := replied
  cases reply <;> rfl

theorem run_sendListChange (ns : Namespace) (id field : String) (query change : Document)
    (store : Store) :
    (sendListChange ns id field query change).run serve store =
      match serve (.update ns query change) store with
      | (.counted number, store) => (.ok number, store)
      | (.writeError code, store) =>
        (.error (if code = badValueCode ∨ code = typeMismatchCode then .notAnArray ns id field
          else failure (.writeError code)), store)
      | (reply, store) => (.error (failure reply), store) := by
  simp only [sendListChange, Program.run_bind, Program.question, Program.run]
  generalize serve (.update ns query change) store = replied
  obtain ⟨reply, store⟩ := replied
  cases reply with
  | writeError code =>
    by_cases known : code = badValueCode ∨ code = typeMismatchCode <;> simp [known, Program.run]
  | _ => rfl

theorem run_ensureFound (ns : Namespace) (id : String) (found : Nat) (store : Store) :
    (ensureFound ns id found).run serve store =
      (if found = 0 then .error (.notFound ns id) else .ok (), store) := by
  unfold ensureFound
  split <;> rfl

/-- An addition is the list set anew, and only where this finds nothing the element pushed. -/
theorem run_push (ns : Namespace) (id field : String) (element : Bson) (store : Store) :
    (push ns id field element).run serve store =
      match (send (.update ns (Document.insert field .null (byId id))
        (versionedChange setOperator field (.array [element])))).run serve store with
      | (.error error, store) => (.error error, store)
      | (.ok initialised, store) =>
        if 0 < initialised then (.ok (), store)
        else (sendListChange ns id field (byId id) (versionedChange pushOperator field element) >>=
          ensureFound ns id).run serve store := by
  unfold push
  rw [Program.run_bind]
  generalize (send _).run serve store = reached
  obtain ⟨result, store⟩ := reached
  cases result with
  | error error => rfl
  | ok initialised =>
    by_cases some : 0 < initialised
    · simp only [some, if_true]
      rfl
    · simp only [some, if_false]

/-- A removal is sent to a document that holds the element; another is only looked for. -/
theorem run_pull (ns : Namespace) (id field : String) (element : Bson) (store : Store) :
    (pull ns id field element).run serve store =
      match (sendListChange ns id field (Document.insert field element (byId id))
        (versionedChange pullOperator field element)).run serve store with
      | (.error error, store) => (.error error, store)
      | (.ok pulled, store) =>
        if 0 < pulled then (.ok (), store)
        else (send (.aggregate ns (byId id)) >>= ensureFound ns id).run serve store := by
  unfold pull
  rw [Program.run_bind]
  generalize (sendListChange _ _ _ _ _).run serve store = reached
  obtain ⟨result, store⟩ := reached
  cases result with
  | error error => rfl
  | ok pulled =>
    by_cases some : 0 < pulled
    · simp only [some, if_true]
      rfl
    · simp only [some, if_false]

end Command

/-! ### The edits -/

/-- The command of an addition that sets an unset list. -/
abbrev initialising (ns : Namespace) (id field element : String) : Command :=
  .update ns (Document.insert field .null (byId id))
    (versionedChange setOperator field (.array [.string element]))

/-- The command of an addition to a list that is there. -/
abbrev appending (ns : Namespace) (id field element : String) : Command :=
  .update ns (byId id) (versionedChange pushOperator field (.string element))

/-- The command of a removal, to a document that holds the element. -/
abbrev removing (ns : Namespace) (id field element : String) : Command :=
  .update ns (Document.insert field (.string element) (byId id))
    (versionedChange pullOperator field (.string element))

section Edit

variable {store : Store} {ns : Namespace} {id field : String} {document : Document}

variable (plain : field ≠ idKey ∧ field ≠ versionKey) (element : String)

include plain

/-- Where nobody answers to the key, both kinds of edit say so. -/
theorem run_editMembership_of_strangers (strangers : Strangers id (store.documents ns))
    (membership : Membership) :
    (editMembership ns id membership field (.string element)).run serve store =
      store.editMembership ns id membership field (.string element) := by
  have nobody : store.findOne ns (.byId id) = none := Store.findOne_of_lacks strangers
  have unasked : ∀ asked, ∀ document ∈ store.documents ns,
      Filter.asksAll (Document.insert field asked (byId id)) document = false := by
    intro asked document member
    rw [asksAll_insert_byId plain.1, strangers document member, Bool.false_and]
  have unknown : ∀ document ∈ store.documents ns, Filter.asksAll (byId id) document = false := by
    intro document member
    rw [asksAll_byId, strangers document member]
  have none : (store.documents ns).countP (Filter.asksAll (byId id)) = 0 := by
    rw [List.countP_eq_zero]
    intro document member
    simp [unknown document member]
  have refused : store.editMembership ns id membership field (.string element) =
      (.error (.notFound ns id), store) := by
    simp only [Store.editMembership, nobody]
  rw [refused]
  cases membership with
  | push =>
    rw [editMembership, run_push, run_send, serve_update_missed (unasked _)]
    simp only [Nat.lt_irrefl, if_false]
    rw [Program.run_bind, run_sendListChange, serve_update_missed unknown]
    simp only [run_ensureFound, if_true]
  | pull =>
    rw [editMembership, run_pull, run_sendListChange, serve_update_missed (unasked _)]
    simp only [Nat.lt_irrefl, if_false]
    rw [Program.run_bind, run_send]
    simp only [serve, none, run_ensureFound, if_true]

/-- A query for the key and more finds no document that does not answer to the key. -/
theorem asksAll_of_stranger (asked : Bson) {other : Document}
    (stranger : (Filter.byId id).accepts other = false) :
    Filter.asksAll (Document.insert field asked (byId id)) other = false := by
  rw [asksAll_insert_byId plain.1, stranger, Bool.false_and]

/-! ### Their commands on the one document -/

section One

variable (only : store.Only ns id document)

include only

/-- A field that answers to null is set anew, even if it is a list. -/
theorem serve_initialising_of_null (counts : document.CountsVersion)
    (null : valueMatches (document.get? field) .null = true) :
    serve (initialising ns id field element) store =
      (.counted 1, store.update ns (Store.changeFirst (.byId id) fun _ =>
        (document.insert field (.array [.string element])).bumped)) := by
  have asked : Filter.asksAll (Document.insert field .null (byId id)) document = true := by
    rw [asksAll_insert_byId plain.1, only.answers, Bool.true_and]
    exact null
  have changed : applyChange (versionedChange setOperator field (.array [.string element])) document =
      .ok (document.insert field (.array [.string element])).bumped := by
    rw [applyChange_versionedChange _ (by decide)]
    refine applyOperators_counted ?_ counts ?_
    · simp [applyOperator]
    · exact Document.get?_insert_of_ne plain.2.symm _ document
  rw [serve_update_found only (fun _ => asksAll_of_stranger plain .null) asked, changed]

theorem serve_initialising_of_not_null (some : valueMatches (document.get? field) .null = false) :
    serve (initialising ns id field element) store = (.counted 0, store) := by
  refine serve_update_unmet only (fun _ => asksAll_of_stranger plain .null) ?_
  rw [asksAll_insert_byId plain.1, only.answers, Bool.true_and]
  exact some

/-- A list that is there takes the element. -/
theorem serve_appending (counts : document.CountsVersion) {items : List Bson}
    (held : document.get? field = some (.array items)) :
    serve (appending ns id field element) store =
      (.counted 1, store.update ns (Store.changeFirst (.byId id) fun _ =>
        (document.insert field (.array (items ++ [.string element]))).bumped)) := by
  have operator := applyOperator_push field (.string element) document
  rw [held] at operator
  rw [serve_update_found only (fun other stranger => (asksAll_byId id other).trans stranger)
    ((asksAll_byId id document).trans only.answers), applyChange_versionedChange _ (by decide),
    applyOperators_counted operator counts (Document.get?_insert_of_ne plain.2.symm _ document)]

/-- All elements equal to the one removed leave a list that holds it. -/
theorem serve_removing_of_listed (counts : document.CountsVersion) {items : List Bson}
    (held : document.get? field = some (.array items))
    (listed : items.any (·.same (.string element)) = true) :
    serve (removing ns id field element) store =
      (.counted 1, store.update ns (Store.changeFirst (.byId id) fun _ =>
        (document.insert field (.array (items.filter (!·.same (.string element))))).bumped)) := by
  have asked : Filter.asksAll (Document.insert field (.string element) (byId id)) document = true := by
    rw [asksAll_insert_byId plain.1, only.answers, held, Bool.true_and]
    show valueMatches (some (.array items)) (.string element) = true
    simp only [valueMatches, listed, Bool.or_true]
  have operator := applyOperator_pull field (.string element) document
  rw [held] at operator
  rw [serve_update_found only (fun _ => asksAll_of_stranger plain _) asked,
    applyChange_versionedChange _ (by decide),
    applyOperators_counted operator counts (Document.get?_insert_of_ne plain.2.symm _ document)]

theorem serve_removing_of_unlisted
    (unlisted : valueMatches (document.get? field) (.string element) = false) :
    serve (removing ns id field element) store = (.counted 0, store) := by
  refine serve_update_unmet only (fun _ => asksAll_of_stranger plain _) ?_
  rw [asksAll_insert_byId plain.1, only.answers, Bool.true_and]
  exact unlisted

omit plain in
/-- Looking for the document finds it. -/
theorem serve_aggregate : ∃ found, found ≠ 0 ∧
    serve (.aggregate ns (byId id)) store = (.counted found, store) := by
  refine ⟨_, ?_, rfl⟩
  rw [Ne, List.countP_eq_zero]
  intro none
  exact none document only.mem ((asksAll_byId id document).trans only.answers)

end One

variable (only : store.Only ns id document) (countable : document.Countable)

include only countable

/-- A field that answers to null is set anew, even if it is a list. -/
theorem run_push_of_null (null : valueMatches (document.get? field) .null = true) :
    (editMembership ns id .push field (.string element)).run serve store =
      (.ok (), store.update ns (Store.changeFirst (.byId id) fun _ =>
        (document.insert field (.array [.string element])).bumped)) := by
  rw [editMembership, run_push, run_send,
    serve_initialising_of_null plain element only countable.counts null]
  rfl

/-- Any other field is pushed onto, which it takes or refuses as in the document store. -/
theorem run_push_of_not_null (some : valueMatches (document.get? field) .null = false) :
    (editMembership ns id .push field (.string element)).run serve store =
      store.editMembership ns id .push field (.string element) := by
  rw [editMembership, run_push, run_send, serve_initialising_of_not_null plain element only some]
  simp only [Nat.lt_irrefl, if_false]
  rw [Program.run_bind, run_sendListChange, serve_update_found only
    (fun other stranger => (asksAll_byId id other).trans stranger)
    ((asksAll_byId id document).trans only.answers),
    only.editMembership, applyChange_versionedChange _ (by decide)]
  have operator := applyOperator_push field (.string element) document
  cases holds : document.get? field with
  | none =>
    rw [holds] at some
    cases some
  | some value =>
    rw [holds] at some operator
    -- A list takes the element; null was excluded, and anything else is refused by both.
    cases value with
    | array items =>
      have changed := applyOperators_counted operator countable.counts
        (Document.get?_insert_of_ne plain.2.symm _ document)
      simp only [Document.withMembership, holds, Membership.edit, changed]
      rfl
    | null => cases some
    | _ =>
      simp only [Document.withMembership, holds, Membership.edit, applyOperators_refused operator]
      rfl

/-- A removal does what it does in the document store. -/
theorem run_pull_of_only :
    (editMembership ns id .pull field (.string element)).run serve store =
      store.editMembership ns id .pull field (.string element) := by
  have asked_iff : Filter.asksAll (Document.insert field (.string element) (byId id)) document =
      valueMatches (document.get? field) (.string element) := by
    rw [asksAll_insert_byId plain.1, only.answers, Bool.true_and]
    rfl
  have operator := applyOperator_pull field (.string element) document
  rw [editMembership, run_pull, run_sendListChange, only.editMembership, Document.withMembership]
  cases matched : valueMatches (document.get? field) (.string element) with
  | true =>
    rw [serve_update_found only (fun _ => asksAll_of_stranger plain _) (asked_iff.trans matched),
      applyChange_versionedChange _ (by decide)]
    cases holds : document.get? field with
    | none =>
      rw [holds] at matched
      cases matched
    | some value =>
      rw [holds] at matched operator
      -- Only a list or the element itself can answer to the element.
      cases value with
      | array items =>
        have changed := applyOperators_counted operator countable.counts
          (Document.get?_insert_of_ne plain.2.symm _ document)
        have fewer : (items.filter (!·.same (.string element))).length ≠ items.length := by
          rw [Ne, List.length_filter_eq_length_iff]
          simpa [valueMatches, Bson.same] using matched
        simp only [Membership.edit, changed, fewer, if_false]
        rfl
      | string text =>
        have same : (Bson.string text).same (.string element) = true := matched
        simp only [Membership.edit, same, if_true, applyOperators_refused operator]
        rfl
      | _ => simp [valueMatches, Bson.same] at matched
  | false =>
    obtain ⟨found, some, looked⟩ := serve_aggregate only
    rw [serve_removing_of_unlisted plain element only matched]
    simp only [Nat.lt_irrefl, if_false]
    rw [Program.run_bind, run_send, looked]
    simp only [run_ensureFound, some, if_false]
    cases holds : document.get? field with
    | none => simp only [Membership.edit, only.update_self]
    | some value =>
      rw [holds] at matched
      cases value with
      | array items =>
        have all : (items.filter (!·.same (.string element))).length = items.length := by
          rw [List.length_filter_eq_length_iff]
          simpa [valueMatches, Bson.same] using matched
        simp only [Membership.edit, all, if_true, only.update_self]
      | _ =>
        simp only [valueMatches] at matched
        simp only [Membership.edit, matched, Bool.false_eq_true, if_false, only.update_self]

/-- An addition does what it does in the document store, but on a list that holds a null. -/
theorem run_push_eq_iff :
    (editMembership ns id .push field (.string element)).run serve store =
      store.editMembership ns id .push field (.string element) ↔ ¬ document.ListsNull field := by
  cases null : valueMatches (document.get? field) .null with
  | false =>
    refine iff_of_true (run_push_of_not_null plain element only countable null) ?_
    rintro ⟨items, holds, some⟩
    rw [holds] at null
    simp [valueMatches, some] at null
  | true =>
    rw [run_push_of_null plain element only countable null, only.editMembership,
      Document.withMembership]
    cases holds : document.get? field with
    | none => exact iff_of_true rfl (by simp [Document.ListsNull, holds])
    | some value =>
      rw [holds] at null
      cases value with
      | null => exact iff_of_true rfl (by simp [Document.ListsNull, holds])
      | array items =>
        have some : items.any (·.same .null) = true := by simpa [valueMatches, Bson.same] using null
        refine iff_of_false (fun same => ?_) (fun none => none ⟨items, holds, some⟩)
        -- The new list would have to be the old one with the element added.
        have documents := only.eq_of_update_eq (congrArg Prod.snd same)
        have lists := congrArg (Document.get? field) documents
        rw [Document.bumped, Document.bumped, Document.get?_insert_of_ne plain.2,
          Document.get?_insert_of_ne plain.2, Document.get?_insert_self,
          Document.get?_insert_self] at lists
        injection lists with lists
        injection lists with lists
        have lengths := congrArg List.length lists
        simp only [List.length_append, List.length_singleton] at lengths
        have empty : items = [] := List.eq_nil_of_length_eq_zero (by omega)
        rw [empty] at some
        cases some
      | _ => simp [valueMatches, Bson.same] at null

end Edit

/-- **When a server edits a list as the document store does.** Where at most one document answers to
the key and its version can be counted, commands and edit give the same answer and leave the same
store, for every field but key and version and whatever it holds, unless an element is added to a
list that holds a null. -/
theorem editMembership_agrees_iff {store : Store} {ns : Namespace} {id field : String}
    (single : (store.documents ns).countP (Filter.byId id).accepts ≤ 1)
    (countable : ∀ document ∈ store.documents ns, (Filter.byId id).accepts document = true →
      document.Countable)
    (plain : field ≠ idKey ∧ field ≠ versionKey) (membership : Membership) (element : String) :
    (editMembership ns id membership field (.string element)).run serve store =
        store.editMembership ns id membership field (.string element) ↔
      ¬ (membership = .push ∧ ∃ document ∈ store.documents ns,
        (Filter.byId id).accepts document = true ∧ document.ListsNull field) := by
  rcases Store.lacks_or_only single with lacks | ⟨document, only⟩
  · refine iff_of_true (run_editMembership_of_strangers plain element lacks membership) ?_
    rintro ⟨_, document, member, answers, _⟩
    rw [lacks document member] at answers
    cases answers
  · have countable := countable document only.mem only.answers
    have listed_iff : (∃ document ∈ store.documents ns, (Filter.byId id).accepts document = true ∧
        document.ListsNull field) ↔ document.ListsNull field := by
      constructor
      · rintro ⟨other, member, answers, lists⟩
        exact only.eq_of_mem member answers ▸ lists
      · exact fun lists => ⟨document, only.mem, only.answers, lists⟩
    rw [listed_iff]
    cases membership with
    | push => simpa using run_push_eq_iff plain element only countable
    | pull => exact iff_of_true (run_pull_of_only plain element only countable) (by simp)

/-- A course whose list of lessons holds a null. -/
def nullListed : Document := [
  ("courseId", .string "algebra"),
  (Course.lessonsField, .array [.null]),
  (idKey, .string "algebra"),
  (versionKey, .int64 1)]

/-- A store with this course only. -/
def nullStore : Store :=
  ⟨[(⟨systemDatabase, RecordKind.course.collection⟩, [nullListed])]⟩

/-- **A list that loses what it held.** The server takes a list that holds a null for one that is not
set, so that the lesson is left alone on it; in the document store it comes after the null. Both report
success. -/
theorem push_onto_null_differs :
    ∃ onServer inStore : Store,
      (editMembership ⟨systemDatabase, RecordKind.course.collection⟩ "algebra" .push
        Course.lessonsField (.string "sets")).run serve nullStore = (.ok (), onServer) ∧
      nullStore.editMembership ⟨systemDatabase, RecordKind.course.collection⟩ "algebra" .push
        Course.lessonsField (.string "sets") = (.ok (), inStore) ∧
      (onServer.findOne ⟨systemDatabase, RecordKind.course.collection⟩ (.byId "algebra")).map
        (Document.get? Course.lessonsField) = some (some (.array [.string "sets"])) ∧
      (inStore.findOne ⟨systemDatabase, RecordKind.course.collection⟩ (.byId "algebra")).map
        (Document.get? Course.lessonsField) = some (some (.array [.null, .string "sets"])) := by
  have plain : Course.lessonsField ≠ idKey ∧ Course.lessonsField ≠ versionKey := by decide
  have only : nullStore.Only ⟨systemDatabase, RecordKind.course.collection⟩ "algebra" nullListed :=
    ⟨[], [], by simp [Strangers], by simp [Strangers], rfl, rfl⟩
  have countable : nullListed.Countable := by
    show (1 : Int64) < Int64.maxValue
    decide
  exact ⟨_, _, run_push_of_null plain "sets" only countable rfl, rfl, rfl, rfl⟩

/-- The course as a case of the theorem: a lesson is added otherwise than in the document store, and
removed in the same way. -/
theorem editMembership_agrees_iff_of_null_listed :
    let courses : Namespace := ⟨systemDatabase, RecordKind.course.collection⟩
    (nullStore.documents courses).countP (Filter.byId "algebra").accepts ≤ 1 ∧
      (∀ document ∈ nullStore.documents courses, document.Countable) ∧
      (Course.lessonsField ≠ idKey ∧ Course.lessonsField ≠ versionKey) ∧
      (editMembership courses "algebra" .push Course.lessonsField (.string "sets")).run serve
          nullStore ≠
        nullStore.editMembership courses "algebra" .push Course.lessonsField (.string "sets") ∧
      (editMembership courses "algebra" .pull Course.lessonsField (.string "sets")).run serve
          nullStore =
        nullStore.editMembership courses "algebra" .pull Course.lessonsField (.string "sets") := by
  intro courses
  have single : (nullStore.documents courses).countP (Filter.byId "algebra").accepts ≤ 1 := by
    decide
  have countable : ∀ document ∈ nullStore.documents courses, document.Countable := by
    intro document member
    rw [List.mem_singleton.mp member]
    show (1 : Int64) < Int64.maxValue
    decide
  have plain : Course.lessonsField ≠ idKey ∧ Course.lessonsField ≠ versionKey := by decide
  have agrees_iff := fun membership => editMembership_agrees_iff single
    (fun document member _ => countable document member) plain membership "sets"
  refine ⟨single, countable, plain, fun same => ?_, (agrees_iff .pull).mpr (by simp)⟩
  exact (agrees_iff .push).mp same ⟨rfl, nullListed, List.mem_singleton_self _, rfl, [.null], rfl, rfl⟩

end Mongo

end Syllabus
