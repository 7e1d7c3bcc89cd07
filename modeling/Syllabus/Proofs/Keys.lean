/-
**The keys of a namespace.**

Whatever is asked of a store that was empty at first, with whatever filters and documents, every document
has a key and no two documents of a namespace have equal ones. An insertion adds one key at the end, a
deletion takes one out, and all other calls leave the keys and their order.

* `Bson.IsProper` — documents have each field once, at every depth; `Bson.same_symm` — the equality of such
  values is symmetric;
* `Store.keys` — the keys of a namespace; `Store.KeysApart` — all are there, and no two are equal;
* `Request.keysAfter` — the keys of its namespace after a request;
* `Store.keys_perform` — every request makes just these of them; `KeysApart.perform` — and keeps them apart;
* **`keys_stay_apart`** — so do any number of requests.
-/

import Mathlib.Data.List.Perm.Subperm
import Syllabus.Proofs.Keeping
import Syllabus.Store.Fault

namespace Syllabus

/-! ### Equality of stored values -/

namespace Document

theorem mem_of_get? {key : String} {value : Bson} {document : Document}
    (there : document.get? key = some value) : (key, value) ∈ document := by
  induction document with
  | nil => cases there
  | cons field rest ih =>
    obtain ⟨name, held⟩ := field
    by_cases here : name = key
    · simp only [get?, here, if_true, Option.some.injEq] at there
      simp [here, there]
    · simp only [get?, here, if_false] at there
      exact List.mem_cons_of_mem _ (ih there)

theorem get?_of_mem {key : String} {value : Bson} {document : Document}
    (distinct : (document.map Prod.fst).Nodup) (member : (key, value) ∈ document) :
    document.get? key = some value := by
  induction document with
  | nil => cases member
  | cons field rest ih =>
    obtain ⟨name, held⟩ := field
    rw [List.map_cons, List.nodup_cons] at distinct
    rcases List.mem_cons.mp member with here | later
    · cases here
      simp [get?]
    · have other : name ≠ key := fun same =>
        distinct.1 (List.mem_map.mpr ⟨_, later, same.symm⟩)
      simp only [get?, other, if_false]
      exact ih distinct.2 later

end Document

namespace Bson

mutual

/-- Documents have each field once, at every depth. -/
def IsProper : Bson → Prop
  | .scopedScript _ scope => (scope.map Prod.fst).Nodup ∧ FieldsProper scope
  | .array items => ItemsProper items
  | .document fields => (fields.map Prod.fst).Nodup ∧ FieldsProper fields
  | _ => True

/-- The items are proper. -/
def ItemsProper : List Bson → Prop
  | [] => True
  | item :: items => item.IsProper ∧ ItemsProper items

/-- The values of the fields are proper. -/
def FieldsProper : Document → Prop
  | [] => True
  | (_, value) :: fields => value.IsProper ∧ FieldsProper fields

end

theorem FieldsProper.of_mem {fields : Document} (proper : FieldsProper fields) {key : String}
    {value : Bson} (member : (key, value) ∈ fields) : value.IsProper := by
  induction fields with
  | nil => cases member
  | cons field rest ih =>
    rcases List.mem_cons.mp member with here | later
    · cases here
      exact proper.1
    · exact ih proper.2 later

theorem fieldsSame_iff (fields other : Document) :
    fieldsSame fields other = true ↔
      ∀ key value, (key, value) ∈ fields → ∃ held, other.get? key = some held ∧
        value.same held = true := by
  induction fields with
  | nil => simp [fieldsSame]
  | cons field rest ih =>
    obtain ⟨name, first⟩ := field
    rw [fieldsSame, Bool.and_eq_true, ih]
    constructor
    · rintro ⟨here, later⟩ key value member
      rcases List.mem_cons.mp member with same | member
      · cases same
        cases found : other.get? name with
        | none => simp [found] at here
        | some held => exact ⟨held, rfl, by simpa [found] using here⟩
      · exact later key value member
    · intro all
      refine ⟨?_, fun key value member => all key value (List.mem_cons_of_mem _ member)⟩
      obtain ⟨held, found, same⟩ := all name first List.mem_cons_self
      simp [found, same]

/-- Two documents with as many fields, each of the first found in the second, have the same fields. -/
theorem fieldsSame_symm {fields other : Document} (distinct : (fields.map Prod.fst).Nodup)
    (distinct' : (other.map Prod.fst).Nodup) (lengths : fields.length = other.length)
    (back : ∀ key value, (key, value) ∈ fields → ∃ held, other.get? key = some held ∧
      held.same value = true) : fieldsSame other fields = true := by
  have names : fields.map Prod.fst ⊆ other.map Prod.fst := by
    intro name member
    obtain ⟨⟨key, value⟩, there, rfl⟩ := List.mem_map.mp member
    obtain ⟨held, found, _⟩ := back key value there
    exact List.mem_map.mpr ⟨_, Document.mem_of_get? found, rfl⟩
  have all : (fields.map Prod.fst).Perm (other.map Prod.fst) :=
    (List.subperm_of_subset distinct names).perm_of_length_le (by simp [lengths])
  rw [fieldsSame_iff]
  intro key held member
  have named : key ∈ fields.map Prod.fst := all.mem_iff.mpr (List.mem_map.mpr ⟨_, member, rfl⟩)
  obtain ⟨⟨_, value⟩, there, rfl⟩ := List.mem_map.mp named
  obtain ⟨found, here, same⟩ := back _ value there
  rw [Document.get?_of_mem distinct' member] at here
  cases here
  exact ⟨value, Document.get?_of_mem distinct there, same⟩

mutual

/-- **Equality of proper values is symmetric.** -/
theorem same_symm : ∀ x y : Bson, x.IsProper → y.IsProper → x.same y = true → y.same x = true
  | .array xs, y, proper, proper', same => by
    cases y <;> simp only [Bson.same, Bool.false_eq_true] at same ⊢
    exact itemsSame_symm xs _ proper proper' same
  | .document xs, y, proper, proper', same => by
    cases y <;> simp only [Bson.same, Bool.false_eq_true] at same ⊢
    rw [Bool.and_eq_true, beq_iff_eq] at same ⊢
    refine ⟨same.1.symm, fieldsSame_symm proper.1 proper'.1 same.1 ?_⟩
    exact fieldsSame_back xs _ proper.2 proper'.2 same.2
  | .scopedScript code xs, y, proper, proper', same => by
    cases y <;> simp only [Bson.same, Bool.false_eq_true] at same ⊢
    simp only [Bool.and_eq_true, beq_iff_eq] at same ⊢
    refine ⟨⟨same.1.1.symm, same.1.2.symm⟩, fieldsSame_symm proper.1 proper'.1 same.1.2 ?_⟩
    exact fieldsSame_back xs _ proper.2 proper'.2 same.2
  | .double x, y, _, _, same => by
    cases y <;> simp_all [Bson.same, Binary64.same_comm]
  | .null, y, _, _, same | .bool _, y, _, _, same | .int32 _, y, _, _, same
  | .int64 _, y, _, _, same | .string _, y, _, _, same | .objectId _, y, _, _, same
  | .dateTime _, y, _, _, same | .foreign _, y, _, _, same => by
    cases y <;> simp_all [Bson.same]

theorem itemsSame_symm : ∀ xs ys : List Bson, ItemsProper xs → ItemsProper ys →
    itemsSame xs ys = true → itemsSame ys xs = true
  | [], ys, _, _, same => by
    cases ys <;> simp_all [itemsSame]
  | x :: xs, ys, proper, proper', same => by
    cases ys with
    | nil => simp [itemsSame] at same
    | cons y ys =>
      simp only [itemsSame, Bool.and_eq_true] at same ⊢
      exact ⟨same_symm x y proper.1 proper'.1 same.1,
        itemsSame_symm xs ys proper.2 proper'.2 same.2⟩

theorem fieldsSame_back : ∀ xs ys : Document, FieldsProper xs → FieldsProper ys →
    fieldsSame xs ys = true → ∀ key value, (key, value) ∈ xs → ∃ held, ys.get? key = some held ∧
      held.same value = true
  | [], _, _, _, _, _, _, member => by cases member
  | (name, x) :: xs, ys, proper, proper', same, key, value, member => by
    rw [fieldsSame, Bool.and_eq_true] at same
    rcases List.mem_cons.mp member with here | later
    · cases here
      cases found : ys.get? name with
      | none => simp [found] at same
      | some held =>
        simp only [found] at same
        have sound := proper'.of_mem (Document.mem_of_get? found)
        exact ⟨held, rfl, same_symm x held proper.1 sound same.1⟩
    · exact fieldsSame_back xs ys proper.2 proper' same.2 key value later

end

end Bson

/-! ### Keys and requests -/

/-- A request that edits no key and inserts documents only that have each field once. -/
def Request.Admissible : Request → Prop
  | .insertOne _ document => (Bson.document document).IsProper
  | .editMembership _ _ _ field _ => field ≠ idKey
  | _ => True

/-- The keys of the documents of the request's namespace after it: a document that was inserted comes
last, the first one that meets the filter of a deletion is gone, and all else is as it was. -/
def Request.keysAfter (documents : List Document) :
    (request : Request) → Except StoreError request.Answer → List (Option Bson)
  | .insertOne _ _, .ok id => documents.map (Document.get? idKey) ++ [some id]
  | .deleteOne _ filter, .ok 1 =>
    (documents.map (Document.get? idKey)).eraseIdx (documents.findIdx filter.accepts)
  | _, _ => documents.map (Document.get? idKey)

namespace Store

/-- The keys of the documents of a namespace, in order. -/
def keys (store : Store) (ns : Namespace) : List (Option Bson) :=
  (store.documents ns).map (Document.get? idKey)

/-- Every document of the namespace has a key, and no two have equal ones. -/
def KeysApart (store : Store) (ns : Namespace) : Prop :=
  ∃ ids : List Bson, store.keys ns = ids.map some ∧ (∀ id ∈ ids, id.IsProper) ∧
    ids.Pairwise fun first second => first.same second = false ∧ second.same first = false

/-- As long as the document that is changed keeps its key, all keys stay. -/
theorem map_key_changeFirst {filter : Filter} {change : Document → Document}
    {documents : List Document}
    (keeps : ∀ document, documents.find? filter.accepts = some document →
      (change document).get? idKey = document.get? idKey) :
    (changeFirst filter change documents).map (Document.get? idKey) =
      documents.map (Document.get? idKey) := by
  induction documents with
  | nil => rfl
  | cons document rest ih =>
    unfold changeFirst
    split
    · next accepted =>
      rw [List.map_cons, List.map_cons, keeps document (List.find?_cons_of_pos accepted)]
    · next refused =>
      rw [List.map_cons, List.map_cons,
        ih fun other found => keeps other ((List.find?_cons_of_neg refused).trans found)]

/-- The key of the first document that meets a filter goes with it. -/
theorem map_key_eraseP (filter : Filter) (documents : List Document) :
    (documents.eraseP filter.accepts).map (Document.get? idKey) =
      (documents.map (Document.get? idKey)).eraseIdx (documents.findIdx filter.accepts) := by
  induction documents with
  | nil => rfl
  | cons document rest ih =>
    rw [List.findIdx_cons]
    cases accepted : filter.accepts document <;> simp [accepted, ih]

section

variable {spare : ObjectId} {store : Store} {ns : Namespace}

/-- An insertion that is accepted answers the document's key, and no document had an equal one. -/
theorem fresh_of_insertOne {document : Document} {id : Bson}
    (accepted : (store.insertOne spare ns document).1 = .ok id) :
    (keyed spare document).1 = id ∧ ¬(store.documents ns).any (holdsKey id) = true := by
  unfold insertOne at accepted
  dsimp only at accepted
  rw [documents_opened] at accepted
  split at accepted
  · cases accepted
  · next fresh =>
    cases accepted
    exact ⟨rfl, fresh⟩

/-- What an insertion answers is the key of the document that it adds. -/
theorem keys_insertOne (document : Document) {id : Bson}
    (accepted : (store.insertOne spare ns document).1 = .ok id) :
    (store.insertOne spare ns document).2.keys ns = store.keys ns ++ [some id] := by
  have answered := (fresh_of_insertOne accepted).1
  have held : (keyed spare document).2.get? idKey = some (keyed spare document).1 := by
    unfold keyed
    split
    · next there => exact there
    · exact Document.get?_insert_self ..
  rw [keys, documents_insertOne_of_ok accepted, List.map_append, List.map_singleton, held, answered]
  rfl

/-- A replacement keeps the key of what it replaces. -/
theorem keys_replaceOne (apart : store.KeysApart ns) (filter : Filter) (document : Document) :
    (store.replaceOne ns filter document).2.keys ns = store.keys ns := by
  obtain ⟨ids, keyed, _⟩ := apart
  rw [keys, documents_replaceOne]
  refine map_key_changeFirst fun old found => ?_
  have member := List.mem_of_find?_eq_some found
  have there : old.get? idKey ∈ ids.map some := keyed ▸ List.mem_map_of_mem member
  obtain ⟨id, _, held⟩ := List.mem_map.mp there
  rw [replacement, ← held]
  exact Document.get?_insert_self ..

/-- An edit of a list that is not the key keeps all keys. -/
theorem keys_editMembership (id : String) (membership : Membership) {field : String}
    (element : Bson) (different : field ≠ idKey) :
    (store.editMembership ns id membership field element).2.keys ns = store.keys ns := by
  unfold editMembership
  split
  · rfl
  · next document found =>
    split
    · rfl
    · next edited made =>
      rw [keys, documents_update_self _ _ rfl]
      refine map_key_changeFirst fun old first => ?_
      cases Option.some.inj (first.symm.trans found)
      exact Document.get?_withMembership different.symm (by decide) made

end

/-- A request leaves all namespaces but the one it writes to. -/
theorem documents_perform_of_ne {request : Request} {ns : Namespace}
    (elsewhere : request.target? ≠ some ns) (spare : ObjectId) (store : Store) :
    (store.perform spare request).2.documents ns = store.documents ns := by
  cases target : request.target? with
  | none =>
    have reads : Call.Reads ⟨.ping, request⟩ := target
    exact congrArg (documents · ns) (respond_of_reads reads spare store)
  | some written =>
    have within : Call.Within written ⟨.ping, request⟩ := fun other also =>
      Option.some.inj (also.symm.trans target)
    have different : ns ≠ written := fun same => elsewhere (target.trans (congrArg some same.symm))
    exact documents_respond_of_ne _ within different spare store

/-- **A request makes of the keys what it should**, where every document has one. -/
theorem keys_perform {store : Store} {ns : Namespace} (apart : store.KeysApart ns) (spare : ObjectId)
    {request : Request} (admissible : request.Admissible) (target : request.target? = some ns) :
    (store.perform spare request).2.keys ns =
      request.keysAfter (store.documents ns) (store.perform spare request).1 := by
  cases request with
  | findOne | count | listAll | ping => cases target
  | insertOne written document =>
    cases target
    simp only [perform]
    cases answer : (store.insertOne spare ns document).1 with
    | ok id => exact keys_insertOne document answer
    | error error =>
      exact congrArg (·.keys ns) (insertOne_of_error answer)
  | replaceOne written filter document =>
    cases target
    exact keys_replaceOne apart filter document
  | deleteOne written filter =>
    cases target
    simp only [perform, keys]
    rw [documents_deleteOne]
    unfold deleteOne
    split
    · exact map_key_eraseP filter _
    · next unmet =>
      rw [List.eraseP_of_forall_not (by simpa using unmet)]
      rfl
  | editMembership written id membership field element =>
    cases target
    exact keys_editMembership id membership element admissible

/-- The key of a document is as proper as the document. -/
theorem isProper_key_keyed (spare : ObjectId) {document : Document}
    (proper : (Bson.document document).IsProper) : (keyed spare document).1.IsProper := by
  unfold keyed
  split
  · next id there => exact proper.2.of_mem (Document.mem_of_get? there)
  · trivial

theorem keysApart_empty (ns : Namespace) : empty.KeysApart ns :=
  ⟨[], rfl, by simp, .nil⟩

namespace KeysApart

variable {store next : Store} {ns : Namespace} {spare : ObjectId}

theorem of_keys_eq (apart : store.KeysApart ns) (same : next.keys ns = store.keys ns) :
    next.KeysApart ns := by
  obtain ⟨ids, keyed, rest⟩ := apart
  exact ⟨ids, same.trans keyed, rest⟩

/-- A document is added only if no document of its namespace has an equal key. -/
theorem insertOne (apart : store.KeysApart ns) {document : Document}
    (proper : (Bson.document document).IsProper) :
    (store.insertOne spare ns document).2.KeysApart ns := by
  cases answer : (store.insertOne spare ns document).1 with
  | error error =>
    rwa [insertOne_of_error answer]
  | ok id =>
    obtain ⟨ids, keyed, propers, distinct⟩ := apart
    obtain ⟨answered, unheld⟩ := fresh_of_insertOne answer
    have sound : id.IsProper := answered ▸ isProper_key_keyed spare proper
    have fresh : ∀ held ∈ ids, held.same id = false := by
      intro held member
      have there : some held ∈ store.keys ns := keyed ▸ List.mem_map_of_mem member
      obtain ⟨holder, stored, key⟩ := List.mem_map.mp there
      refine Bool.eq_false_iff.mpr fun same => unheld (List.any_eq_true.mpr ⟨holder, stored, ?_⟩)
      rw [holdsKey, key]
      exact same
    refine ⟨ids ++ [id], ?_, ?_, ?_⟩
    · rw [keys_insertOne document answer, keyed, List.map_append, List.map_singleton]
    · intro other member
      rcases List.mem_append.mp member with before | here
      · exact propers other before
      · exact List.mem_singleton.mp here ▸ sound
    · refine List.pairwise_append.mpr ⟨distinct, List.pairwise_singleton _ _, ?_⟩
      intro held member other here
      cases List.mem_singleton.mp here
      refine ⟨fresh held member, Bool.eq_false_iff.mpr fun same => ?_⟩
      have back := Bson.same_symm _ held sound (propers held member) same
      rw [fresh held member] at back
      cases back

/-- A deletion leaves some of the keys. -/
theorem deleteOne (apart : store.KeysApart ns) (filter : Filter) :
    (store.deleteOne ns filter).2.KeysApart ns := by
  obtain ⟨ids, keyed, propers, distinct⟩ := apart
  have left : (store.deleteOne ns filter).2.keys ns =
      (ids.eraseIdx ((store.documents ns).findIdx filter.accepts)).map some := by
    rw [keys, documents_deleteOne, map_key_eraseP, ← List.eraseIdx_map]
    exact congrArg (List.eraseIdx · _) keyed
  exact ⟨_, left, fun id member => propers id (List.mem_of_mem_eraseIdx member),
    distinct.sublist (List.eraseIdx_sublist ..)⟩

/-- **A request keeps the keys apart.** -/
theorem perform (apart : ∀ ns, store.KeysApart ns) (spare : ObjectId) {request : Request}
    (admissible : request.Admissible) (ns : Namespace) :
    (store.perform spare request).2.KeysApart ns := by
  by_cases target : request.target? = some ns
  · cases request with
    | findOne | count | listAll | ping => cases target
    | insertOne written document =>
      cases target
      exact (apart ns).insertOne admissible
    | deleteOne written filter =>
      cases target
      exact (apart ns).deleteOne filter
    | replaceOne | editMembership =>
      exact (apart ns).of_keys_eq (keys_perform (apart ns) spare admissible target)
  · exact (apart ns).of_keys_eq
      (congrArg (List.map (Document.get? idKey)) (documents_perform_of_ne target spare store))

/-- So do any number of requests. -/
theorem afterRequests {requests : List (ObjectId × Request)}
    (admissible : ∀ entry ∈ requests, entry.2.Admissible) (apart : ∀ ns, store.KeysApart ns) :
    ∀ ns, (Link.afterRequests store requests).KeysApart ns := by
  induction requests generalizing store with
  | nil => exact apart
  | cons first rest ih =>
    exact ih (fun entry member => admissible entry (List.mem_cons_of_mem _ member))
      (perform apart first.1 (admissible first List.mem_cons_self))

end KeysApart

end Store

/-- **Keys stay apart.** After any number of requests to a store that was empty at first, every document
has a key and no two documents of a namespace have equal ones. The next request makes of the keys of
its namespace what `Request.keysAfter` says, and leaves the documents of all others. -/
theorem keys_stay_apart (requests : List (ObjectId × Request))
    (admissible : ∀ entry ∈ requests, entry.2.Admissible) :
    let store := Link.afterRequests .empty requests
    (∀ ns, store.KeysApart ns) ∧
      ∀ spare (request : Request), request.Admissible → ∀ ns,
        (request.target? = some ns → (store.perform spare request).2.keys ns =
          request.keysAfter (store.documents ns) (store.perform spare request).1) ∧
        (request.target? ≠ some ns →
          (store.perform spare request).2.documents ns = store.documents ns) := by
  intro store
  have apart := Store.KeysApart.afterRequests admissible Store.keysApart_empty
  exact ⟨apart, fun spare request fits ns =>
    ⟨Store.keys_perform (apart ns) spare fits,
      (Store.documents_perform_of_ne · spare store)⟩⟩

/-- A document without a key, one whose key is a document, one with an equal key, which is refused, one
with a number, then a replacement that carries a key of its own and a deletion through a list. -/
def mixedRequests (ns : Namespace) : List (ObjectId × Request) :=
  [(⟨1⟩, .insertOne ns [("tags", .array [.string "a", .string "b"])]),
    (⟨2⟩, .insertOne ns [(idKey, .document [("x", .int32 1), ("y", .null)])]),
    (⟨3⟩, .insertOne ns [(idKey, .document [("y", .null), ("x", .int32 1)])]),
    (⟨4⟩, .insertOne ns [("tags", .array [.string "b"]), (idKey, .int64 7)]),
    (⟨5⟩, .replaceOne ns (.byId "absent") []),
    (⟨6⟩, .replaceOne ns (Filter.all.also idKey (.eq (.int64 7))) [(idKey, .null), ("tags", .null)]),
    (⟨7⟩, .deleteOne ns (Filter.all.also "tags" (.eq (.string "b"))))]

/-- The keys after such a run are the document and the number, which was not replaced. -/
theorem keys_stay_apart_of_mixedRequests :
    let ns : Namespace := ⟨"school", "things"⟩
    let store := Link.afterRequests .empty (mixedRequests ns)
    store.KeysApart ns ∧
      store.keys ns = [some (.document [("x", .int32 1), ("y", .null)]), some (.int64 7)] ∧
      (store.perform ⟨8⟩ (.insertOne ns [])).2.keys ns = store.keys ns ++ [some (.objectId ⟨8⟩)] := by
  have admissible (ns : Namespace) : ∀ entry ∈ mixedRequests ns, entry.2.Admissible := by
    simp [mixedRequests, Request.Admissible, Bson.IsProper, Bson.FieldsProper, Bson.ItemsProper,
      idKey]
  have blank (ns : Namespace) : (Request.insertOne ns []).Admissible := by
    simp [Request.Admissible, Bson.IsProper, Bson.FieldsProper]
  have stays := keys_stay_apart (mixedRequests ⟨"school", "things"⟩) (admissible _)
  refine ⟨stays.1 _, by rfl, ?_⟩
  exact (stays.2 ⟨8⟩ (.insertOne _ []) (blank _) _).1 rfl

end Syllabus
