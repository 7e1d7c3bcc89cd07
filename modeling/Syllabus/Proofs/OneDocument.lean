/-
**One document under a key.**

The stores that a change of the one document under a key goes through. The document may be anything that
answers to the key, whoever has put it there.

* `Store.Only` — one document answers to a key; `Store.lacks_or_only` — or none does;
* `Store.Only.editMembership` — what an edit of a list makes of it;
* `Store.OneApart` — two stores that are the same but for this document.
-/

import Syllabus.Proofs.OneRecord

namespace Syllabus

namespace Store

/-! ### One document with a key -/

/-- One document answers to the key, and nobody else does. -/
def Only (store : Store) (ns : Namespace) (id : String) (document : Document) : Prop :=
  ∃ front back, Strangers id front ∧ Strangers id back ∧
    (Filter.byId id).accepts document = true ∧ store.documents ns = front ++ document :: back

/-- Where at most one document answers to a key, none does or just one. -/
theorem lacks_or_only {store : Store} {ns : Namespace} {id : String}
    (single : (store.documents ns).countP (Filter.byId id).accepts ≤ 1) :
    store.Lacks ns id ∨ ∃ document, store.Only ns id document := by
  by_cases some : ∃ document ∈ store.documents ns, (Filter.byId id).accepts document = true
  · obtain ⟨document, member, answers⟩ := some
    obtain ⟨front, back, held⟩ := List.append_of_mem member
    rw [held, List.countP_append, List.countP_cons_of_pos answers] at single
    refine .inr ⟨document, front, back, fun other before => ?_, fun other after => ?_, answers, held⟩
    · have none : front.countP (Filter.byId id).accepts = 0 := by omega
      simpa using List.countP_eq_zero.mp none other before
    · have none : back.countP (Filter.byId id).accepts = 0 := by omega
      simpa using List.countP_eq_zero.mp none other after
  · refine .inl fun document member => ?_
    rw [← Bool.not_eq_true]
    exact fun answers => some ⟨document, member, answers⟩

namespace Only

variable {store : Store} {ns : Namespace} {id : String} {document : Document}

theorem mem (only : store.Only ns id document) : document ∈ store.documents ns := by
  obtain ⟨front, back, _, _, _, held⟩ := only
  simp [held]

theorem answers (only : store.Only ns id document) :
    (Filter.byId id).accepts document = true := by
  obtain ⟨_, _, _, _, answers, _⟩ := only
  exact answers

/-- Of the documents that are there, it is the one that answers to the key. -/
theorem eq_of_mem (only : store.Only ns id document) {other : Document}
    (member : other ∈ store.documents ns) (answers : (Filter.byId id).accepts other = true) :
    other = document := by
  obtain ⟨front, back, strangers, others, _, held⟩ := only
  rw [held] at member
  rcases List.mem_append.mp member with before | here
  · rw [strangers other before] at answers
    cases answers
  · rcases List.mem_cons.mp here with same | after
    · exact same
    · rw [others other after] at answers
      cases answers

theorem findOne (only : store.Only ns id document) :
    store.findOne ns (.byId id) = some document := by
  obtain ⟨front, back, strangers, _, answers, held⟩ := only
  rw [Store.findOne, held, List.find?_append, List.find?_eq_none.mpr fun other member => by
    simp [strangers other member], Option.none_or, List.find?_cons_of_pos answers]

/-- The documents with another one in the place of this. -/
theorem documents_update (only : store.Only ns id document) :
    ∃ front back, ∀ edited : Document,
      (store.update ns (changeFirst (.byId id) fun _ => edited)).documents ns =
        front ++ edited :: back := by
  obtain ⟨front, back, strangers, _, answers, held⟩ := only
  refine ⟨front, back, fun edited => ?_⟩
  rw [documents_update_self _ _ rfl, held, changeFirst_append strangers, changeFirst, if_pos answers]

/-- Different documents in its place make different stores. -/
theorem eq_of_update_eq (only : store.Only ns id document) {first second : Document}
    (same : store.update ns (changeFirst (.byId id) fun _ => first) =
      store.update ns (changeFirst (.byId id) fun _ => second)) : first = second := by
  obtain ⟨front, back, documents⟩ := only.documents_update
  have held := congrArg (Store.documents · ns) same
  rw [documents, documents] at held
  exact (List.cons.inj (List.append_cancel_left held)).1

/-- A document that is put in its own place leaves the store. -/
theorem update_self (only : store.Only ns id document) :
    store.update ns (Store.changeFirst (.byId id) fun _ => document) = store := by
  refine Store.update_self ?_
  obtain ⟨front, back, strangers, _, answers, held⟩ := only
  rw [held, changeFirst_append strangers, Store.changeFirst, if_pos answers]

/-- What an edit of a list makes of the one document with the key. -/
theorem editMembership (only : store.Only ns id document) (membership : Membership) (field : String)
    (element : Bson) : store.editMembership ns id membership field element =
      match document.withMembership membership field element with
      | none => (.error (.notAnArray ns id field), store)
      | some edited =>
        (.ok (), store.update ns (Store.changeFirst (.byId id) fun _ => edited)) := by
  cases made : document.withMembership membership field element <;>
    simp only [Store.editMembership, only.findOne, made]

end Only

/-! ### Stores that differ in one document -/

/-- The stores are the same but for the one document that answers to a key, in the same position. -/
structure OneApart (first second : Store) (ns : Namespace) (id : String)
    (document other : Document) : Prop where
  around : ∃ front back, Strangers id front ∧ Strangers id back ∧
    first.documents ns = front ++ document :: back ∧ second.documents ns = front ++ other :: back
  answers : (Filter.byId id).accepts other = true
  elsewhere : ∀ place, place ≠ ns → second.documents place = first.documents place

namespace OneApart

variable {first second : Store} {ns : Namespace} {id : String} {document other : Document}

theorem of_only (only : first.Only ns id document) : first.OneApart first ns id document document := by
  obtain ⟨front, back, before, after, answers, held⟩ := only
  exact ⟨⟨front, back, before, after, held, held⟩, answers, fun _ _ => rfl⟩

theorem only (apart : first.OneApart second ns id document other) : second.Only ns id other := by
  obtain ⟨front, back, before, after, _, held⟩ := apart.around
  exact ⟨front, back, before, after, apart.answers, held⟩

/-- Another document in the place of the one. -/
theorem update (apart : first.OneApart second ns id document other) {edited : Document}
    (answers : (Filter.byId id).accepts edited = true) :
    first.OneApart (second.update ns (Store.changeFirst (.byId id) fun _ => edited)) ns id document
      edited := by
  obtain ⟨front, back, before, after, held, now⟩ := apart.around
  refine ⟨⟨front, back, before, after, held, ?_⟩, answers, fun place different => ?_⟩
  · rw [documents_update_self _ _ rfl, now, changeFirst_append before, changeFirst,
      if_pos apart.answers]
  · rw [documents_update_of_ne different, apart.elsewhere place different]

end OneApart

end Store

end Syllabus
