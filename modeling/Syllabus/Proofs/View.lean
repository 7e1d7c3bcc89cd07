/-
**A part of a namespace.**

Who looks at some documents of a namespace only, and asks for and writes those only, need not know of the
others: the answers, and those documents afterwards, depend on those documents.

* `Store.view` — the documents of a namespace that are looked at;
* `Request.Heeds` — the request asks for such documents and leaves them such documents;
* **`Store.perform_view`** — two stores with the same view answer it alike, and have the same view again;
* `Call.At` — a call to one namespace, which heeds all its documents.
-/

import Syllabus.Proofs.Keys

namespace Syllabus

/-! ### Lists of which a part is looked at -/

section Parts

variable {p q : Document → Bool} (covered : ∀ document, p document = true → q document = true)

include covered

theorem find?_filter_of_covered (documents : List Document) :
    (documents.filter q).find? p = documents.find? p := by
  rw [List.find?_filter]
  congr 1
  funext document
  cases here : p document <;> simp [here, covered document]

theorem any_filter_of_covered (documents : List Document) :
    (documents.filter q).any p = documents.any p := by
  rw [List.any_filter]
  congr 1
  funext document
  cases here : p document <;> simp [here, covered document]

theorem countP_filter_of_covered (documents : List Document) :
    (documents.filter q).countP p = documents.countP p := by
  rw [List.countP_filter]
  congr 1
  funext document
  cases here : p document <;> simp [here, covered document]

theorem filter_eraseP_of_covered (documents : List Document) :
    (documents.eraseP p).filter q = (documents.filter q).eraseP p := by
  induction documents with
  | nil => rfl
  | cons document rest ih =>
    cases here : p document with
    | true => simp [here, covered document here]
    | false => cases seen : q document <;> simp [here, seen, ih]

end Parts

theorem Store.filter_changeFirst_of_covered {filter : Filter} {q : Document → Bool}
    {change : Document → Document}
    (covered : ∀ document, filter.accepts document = true →
      q document = true ∧ q (change document) = true) (documents : List Document) :
    (changeFirst filter change documents).filter q =
      changeFirst filter change (documents.filter q) := by
  induction documents with
  | nil => rfl
  | cons document rest ih =>
    cases here : filter.accepts document with
    | true => simp [changeFirst, here, covered document here]
    | false => cases seen : q document <;> simp [changeFirst, here, seen, ih]

/-! ### Requests that heed a part -/

/-- The request is one to the namespace that asks for documents with the property only, and adds only
such, and leaves such documents with it. -/
inductive Request.Heeds (ns : Namespace) (seen : Document → Bool) : Request → Prop
  | findOne (filter : Filter)
      (covered : ∀ document, filter.accepts document = true → seen document = true) :
      Heeds ns seen (.findOne ns filter)
  | count (filter : Filter)
      (covered : ∀ document, filter.accepts document = true → seen document = true) :
      Heeds ns seen (.count ns filter)
  | listAll (all : ∀ document, seen document = true) : Heeds ns seen (.listAll ns)
  | insertOne (document : Document)
      (added : ∀ spare, seen (Store.keyed spare document).2 = true)
      (clashing : ∀ spare other, Store.holdsKey (Store.keyed spare document).1 other = true →
        seen other = true) :
      Heeds ns seen (.insertOne ns document)
  | replaceOne (filter : Filter) (document : Document)
      (covered : ∀ old, filter.accepts old = true → seen old = true)
      (stays : ∀ old, filter.accepts old = true →
        seen (Store.replacement old document) = true) :
      Heeds ns seen (.replaceOne ns filter document)
  | deleteOne (filter : Filter)
      (covered : ∀ document, filter.accepts document = true → seen document = true) :
      Heeds ns seen (.deleteOne ns filter)
  | editMembership (id : String) (membership : Membership) (field : String) (element : Bson)
      (covered : ∀ document, (Filter.byId id).accepts document = true → seen document = true)
      (stays : ∀ document edited, (Filter.byId id).accepts document = true →
        document.withMembership membership field element = some edited → seen edited = true) :
      Heeds ns seen (.editMembership ns id membership field element)
  | ping : Heeds ns seen .ping

/-- It writes to no other namespace. -/
theorem Request.Heeds.target {ns other : Namespace} {seen : Document → Bool} {request : Request}
    (heeds : request.Heeds ns seen) (target : request.target? = some other) : other = ns := by
  cases heeds <;> cases target <;> rfl

namespace Store

/-- The documents of a namespace that are looked at. -/
def view (store : Store) (ns : Namespace) (seen : Document → Bool) : List Document :=
  (store.documents ns).filter seen

variable {old new : Store} (ns : Namespace) {seen : Document → Bool}

theorem view_of_documents_eq (same : new.documents ns = old.documents ns) :
    new.view ns seen = old.view ns seen :=
  congrArg (List.filter seen) same

/-- What an insertion answers and leaves, told on a view. -/
theorem view_insertOne (spare : ObjectId) (store : Store) {document : Document}
    (added : seen (keyed spare document).2 = true)
    (clashing : ∀ other, holdsKey (keyed spare document).1 other = true → seen other = true) :
    (store.insertOne spare ns document).1 =
        (if (store.view ns seen).any (holdsKey (keyed spare document).1) then
          .error (.duplicateKey ns (keyed spare document).1.keyText)
        else .ok (keyed spare document).1) ∧
      (store.insertOne spare ns document).2.view ns seen =
        if (store.view ns seen).any (holdsKey (keyed spare document).1) then store.view ns seen
        else store.view ns seen ++ [(keyed spare document).2] := by
  have answer : (store.insertOne spare ns document).1 =
      if (store.view ns seen).any (holdsKey (keyed spare document).1) then
        .error (.duplicateKey ns (keyed spare document).1.keyText)
      else .ok (keyed spare document).1 := by
    rw [view, any_filter_of_covered clashing]
    unfold insertOne
    dsimp only
    rw [documents_opened]
    split <;> rfl
  refine ⟨answer, ?_⟩
  split at answer
  · next taken =>
    rw [if_pos taken]
    rw [insertOne_of_error answer]
  · next free =>
    rw [if_neg free, view, documents_insertOne_of_ok answer, List.filter_append,
      List.filter_singleton, added]
    rfl

/-- What a replacement answers and leaves, told on a view. -/
theorem view_replaceOne (store : Store) (filter : Filter) (document : Document)
    (covered : ∀ old, filter.accepts old = true → seen old = true)
    (stays : ∀ old, filter.accepts old = true → seen (replacement old document) = true) :
    (store.replaceOne ns filter document).1 =
        (if (store.view ns seen).any filter.accepts then 1 else 0) ∧
      (store.replaceOne ns filter document).2.view ns seen =
        changeFirst filter (replacement · document) (store.view ns seen) := by
  constructor
  · rw [view, any_filter_of_covered covered, replaceOne]
    split <;> rfl
  · rw [view, documents_replaceOne]
    exact filter_changeFirst_of_covered
      (fun old accepted => ⟨covered old accepted, stays old accepted⟩) _

/-- What a deletion answers and leaves, told on a view. -/
theorem view_deleteOne (store : Store) (filter : Filter)
    (covered : ∀ document, filter.accepts document = true → seen document = true) :
    (store.deleteOne ns filter).1 = (if (store.view ns seen).any filter.accepts then 1 else 0) ∧
      (store.deleteOne ns filter).2.view ns seen = (store.view ns seen).eraseP filter.accepts := by
  constructor
  · rw [view, any_filter_of_covered covered, deleteOne]
    split <;> rfl
  · rw [view, documents_deleteOne]
    exact filter_eraseP_of_covered covered _

/-- What an edit of a list answers and leaves, told on a view. -/
theorem view_editMembership (store : Store) (id : String) (membership : Membership) (field : String)
    (element : Bson)
    (covered : ∀ document, (Filter.byId id).accepts document = true → seen document = true)
    (stays : ∀ document edited, (Filter.byId id).accepts document = true →
      document.withMembership membership field element = some edited → seen edited = true) :
    (store.editMembership ns id membership field element).1 =
        (match (store.view ns seen).find? (Filter.byId id).accepts with
        | none => .error (.notFound ns id)
        | some document => match document.withMembership membership field element with
          | none => .error (.notAnArray ns id field)
          | some _ => .ok ()) ∧
      (store.editMembership ns id membership field element).2.view ns seen =
        match (store.view ns seen).find? (Filter.byId id).accepts with
        | none => store.view ns seen
        | some document => match document.withMembership membership field element with
          | none => store.view ns seen
          | some edited => changeFirst (.byId id) (fun _ => edited) (store.view ns seen) := by
  rw [view, find?_filter_of_covered covered]
  unfold editMembership findOne
  cases found : (store.documents ns).find? (Filter.byId id).accepts with
  | none => exact ⟨rfl, rfl⟩
  | some document =>
    dsimp only
    cases made : document.withMembership membership field element with
    | none => exact ⟨rfl, rfl⟩
    | some edited =>
      refine ⟨rfl, ?_⟩
      dsimp only
      rw [view, documents_update_self _ _ rfl]
      refine filter_changeFirst_of_covered (fun other accepted => ⟨covered other accepted, ?_⟩) _
      exact stays document edited (List.find?_some found) made

variable {ns}

/-- **Stores with the same view answer alike.** Two stores with the same view of a namespace give the same
answer to a request that heeds it, and have the same view again. -/
theorem perform_view {request : Request} (heeds : request.Heeds ns seen)
    (same : old.view ns seen = new.view ns seen) (spare : ObjectId) :
    (old.perform spare request).1 = (new.perform spare request).1 ∧
      (old.perform spare request).2.view ns seen = (new.perform spare request).2.view ns seen := by
  cases heeds with
  | findOne filter covered =>
    have told : ∀ store : Store,
        store.findOne ns filter = (store.view ns seen).find? filter.accepts :=
      fun store => (find?_filter_of_covered covered (store.documents ns)).symm
    exact ⟨congrArg Except.ok (by rw [told, told, same]), same⟩
  | count filter covered =>
    have told : ∀ store : Store,
        store.count ns filter = (store.view ns seen).countP filter.accepts :=
      fun store => (countP_filter_of_covered covered (store.documents ns)).symm
    exact ⟨congrArg Except.ok (by rw [told, told, same]), same⟩
  | listAll all =>
    have told : ∀ store : Store, store.documents ns = store.view ns seen :=
      fun store => (List.filter_eq_self.mpr fun document _ => all document).symm
    exact ⟨congrArg Except.ok (by rw [told, told, same]), same⟩
  | insertOne document added clashing =>
    obtain ⟨answer, left⟩ := view_insertOne ns spare old (added spare) (clashing spare)
    obtain ⟨answer', left'⟩ := view_insertOne ns spare new (added spare) (clashing spare)
    rw [← same] at answer' left'
    exact ⟨answer.trans answer'.symm, left.trans left'.symm⟩
  | replaceOne filter document covered stays =>
    obtain ⟨answer, left⟩ := view_replaceOne ns old filter document covered stays
    obtain ⟨answer', left'⟩ := view_replaceOne ns new filter document covered stays
    rw [← same] at answer' left'
    exact ⟨congrArg Except.ok (answer.trans answer'.symm), left.trans left'.symm⟩
  | deleteOne filter covered =>
    obtain ⟨answer, left⟩ := view_deleteOne ns old filter covered
    obtain ⟨answer', left'⟩ := view_deleteOne ns new filter covered
    rw [← same] at answer' left'
    exact ⟨congrArg Except.ok (answer.trans answer'.symm), left.trans left'.symm⟩
  | editMembership id membership field element covered stays =>
    obtain ⟨answer, left⟩ := view_editMembership ns old id membership field element covered stays
    obtain ⟨answer', left'⟩ := view_editMembership ns new id membership field element covered stays
    rw [← same] at answer' left'
    exact ⟨answer.trans answer'.symm, left.trans left'.symm⟩
  | ping => exact ⟨rfl, same⟩

end Store

/-! ### Calls to one namespace -/

/-- The namespace of a request, if it is to one. -/
def Request.namespace? : Request → Option Namespace
  | .findOne ns _ | .insertOne ns _ | .replaceOne ns _ _ | .deleteOne ns _ | .count ns _
  | .listAll ns | .editMembership ns _ _ _ _ => some ns
  | .ping => none

/-- The call is to no namespace but this one. -/
def Call.At (ns : Namespace) (call : Call) : Prop :=
  ∀ other, call.request.namespace? = some other → other = ns

namespace Call

theorem at_of_eq {ns : Namespace} {operation : Operation} {request : Request}
    (here : request.namespace? = some ns) : At ns ⟨operation, request⟩ :=
  fun _ other => Option.some.inj (other.symm.trans here)

theorem At.within {ns : Namespace} {call : Call} (there : call.At ns) : call.Within ns := by
  intro written target
  obtain ⟨operation, request⟩ := call
  cases request <;> first | exact there written target | cases target

theorem Counts.at {ns : Namespace} {call : Call} (counts : call.Counts ns) : call.At ns := by
  obtain ⟨filter, rfl⟩ := counts
  exact at_of_eq rfl

/-- Such a call heeds all documents of the namespace. -/
theorem At.heeds {ns : Namespace} {call : Call} (there : call.At ns) :
    call.request.Heeds ns fun _ => true := by
  obtain ⟨operation, request⟩ := call
  cases request <;> first | exact .ping | cases there _ rfl
  case findOne filter => exact .findOne filter fun _ _ => rfl
  case insertOne document => exact .insertOne document (fun _ => rfl) fun _ _ _ => rfl
  case replaceOne filter document =>
    exact .replaceOne filter document (fun _ _ => rfl) fun _ _ => rfl
  case deleteOne filter => exact .deleteOne filter fun _ _ => rfl
  case count filter => exact .count filter fun _ _ => rfl
  case listAll => exact .listAll fun _ => rfl
  case editMembership id membership field element =>
    exact .editMembership id membership field element (fun _ _ => rfl) fun _ _ _ _ => rfl

end Call

namespace Records

variable {ρ : Type} [Record ρ] {record : ρ} {ns : Namespace} (placed : Record.place record = .ok ns)

include placed

/-! The operations on a record are at its place. -/

theorem at_get : (get record).Asks (Call.At ns) := by
  unfold get
  rw [placed]
  refine Program.Asks.bind (asks_call (Call.at_of_eq rfl)) fun found => ?_
  cases found with
  | none => exact .fail _
  | some document => exact .ofExcept _

theorem at_list : (list record).Asks (Call.At ns) := by
  unfold list
  rw [placed]
  exact Program.Asks.bind (asks_call (Call.at_of_eq rfl)) fun _ => .ofExcept _

theorem at_create : (create record).Asks (Call.At ns) := by
  unfold create
  rw [placed]
  exact Program.Asks.bind (asks_call (Call.at_of_eq rfl)) fun _ => .done ()

theorem at_update : (update record).Asks (Call.At ns) := by
  unfold update
  rw [placed]
  refine Program.Asks.bind (asks_call (Call.at_of_eq rfl)) fun found => ?_
  cases found with
  | none => exact .fail _
  | some document =>
    refine (Program.Asks.ofExcept _).bind fun existing => ?_
    refine ((asks_ensureAllUnused ns _ _).mono fun _ => Call.Counts.at).bind fun _ => ?_
    refine Program.Asks.bind (asks_call (Call.at_of_eq rfl)) fun replaced => ?_
    split
    · exact .fail _
    · exact .done _

theorem at_delete : (delete record).Asks (Call.At ns) := by
  unfold delete
  rw [placed]
  refine Program.Asks.bind (asks_call (Call.at_of_eq rfl)) fun deleted => ?_
  split
  · exact .fail _
  · exact .done ()

end Records

end Syllabus
