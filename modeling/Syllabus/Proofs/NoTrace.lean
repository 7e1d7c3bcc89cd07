/-
**Failures leave no trace.**

A run of requests starts from the store without namespaces. A request that fails may have touched the
store before it found out: an insertion makes its namespace ready and only then looks for the key. It
leaves the store all the same, and so does a replacement or a deletion that finds no document. The
namespaces of a store are those that some insertion has reached, whatever was removed from them since.

* `Store.namespaces` — the names of the namespaces; `Store.Receives` — an accepted insertion;
  `Store.Received` — a run with an accepted insertion into a namespace;
* `Store.perform_of_error`, `Store.replaceOne_of_zero`, `Store.deleteOne_of_zero` — what fails leaves
  the store;
* `Store.mem_namespaces_perform`, `Store.nodup_namespaces_perform` — which names are there after a
  request; `Store.mem_namespaces_afterRequests`, `Store.nodup_namespaces_afterRequests` — after a run;
* **`failures_leave_no_trace`** — all of it after any run.
-/

import Syllabus.Proofs.Regular
import Syllabus.Store.Fault

namespace Syllabus

namespace Store

/-- The names of the namespaces, in order. -/
def namespaces (store : Store) : List Namespace :=
  store.partitions.map Prod.fst

/-- The request is an insertion into the namespace, which the store accepts. -/
def Receives (store : Store) (ns : Namespace) (spare : ObjectId) (request : Request) : Prop :=
  ∃ document key, request = .insertOne ns document ∧
    (store.insertOne spare ns document).1 = .ok key

/-- Some insertion of a run from the store, into the namespace, is accepted when its turn comes. -/
def Received (store : Store) (ns : Namespace) (run : List (ObjectId × Request)) : Prop :=
  ∃ before spare request after, run = before ++ (spare, request) :: after ∧
    (Link.afterRequests store before).Receives ns spare request

variable {store : Store} {ns : Namespace} {spare : ObjectId}

/-! ### What fails -/

/-- **A request that fails leaves the store.** -/
theorem perform_of_error {request : Request} {error : StoreError}
    (failed : (store.perform spare request).1 = .error error) :
    (store.perform spare request).2 = store := by
  cases request with
  | findOne | replaceOne | deleteOne | count | listAll | ping => cases failed
  | insertOne ns document => exact insertOne_of_error failed
  | editMembership ns id membership field element =>
    rcases store.editMembership_cases ns id membership field element with
      ⟨_, refused⟩ | ⟨_, _, _, _, accepted, _⟩
    · exact congrArg Prod.snd refused
    · cases accepted.symm.trans failed

/-- A replacement that replaces nothing leaves the store. -/
theorem replaceOne_of_zero {filter : Filter} {document : Document}
    (missing : (store.replaceOne ns filter document).1 = 0) :
    (store.replaceOne ns filter document).2 = store := by
  rcases store.replaceOne_cases ns filter document with missed | ⟨_, _, replaced, _⟩
  · rw [missed]
  · cases replaced.symm.trans missing

/-- A deletion that deletes nothing leaves the store. -/
theorem deleteOne_of_zero {filter : Filter} (missing : (store.deleteOne ns filter).1 = 0) :
    (store.deleteOne ns filter).2 = store := by
  rcases store.deleteOne_cases ns filter with missed | ⟨_, _, deleted, _⟩
  · rw [missed]
  · cases deleted.symm.trans missing

/-! ### The namespaces -/

theorem mem_namespaces_iff :
    ns ∈ store.namespaces ↔ (documentsIn ns store.partitions).isSome = true := by
  obtain ⟨partitions⟩ := store
  simp only [namespaces]
  induction partitions with
  | nil => simp [documentsIn]
  | cons partition rest ih =>
    obtain ⟨name, documents⟩ := partition
    by_cases here : name = ns
    · simp [documentsIn, here]
    · simp [documentsIn, here, ih, Ne.symm here]

/-- A change of documents leaves the names. -/
@[simp]
theorem namespaces_update (change : List Document → List Document) :
    (store.update ns change).namespaces = store.namespaces :=
  fst_updateIn ns change store.partitions

/-- A namespace that is made ready comes last, if it is new. -/
theorem namespaces_opened : (store.opened ns).namespaces =
    if ns ∈ store.namespaces then store.namespaces else store.namespaces ++ [ns] := by
  simp only [mem_namespaces_iff, opened]
  split
  · rfl
  · exact List.map_append

/-- **A request leaves the names, unless it is an accepted insertion.** -/
theorem namespaces_perform_of_not_receives {request : Request}
    (nothing : ∀ ns, ¬ store.Receives ns spare request) :
    (store.perform spare request).2.namespaces = store.namespaces := by
  cases request with
  | findOne | count | listAll | ping => rfl
  | insertOne ns document =>
    cases answer : (store.insertOne spare ns document).1 with
    | error error => exact congrArg namespaces (insertOne_of_error answer)
    | ok key => exact absurd ⟨document, key, rfl, answer⟩ (nothing ns)
  | replaceOne ns filter document =>
    simp only [perform, replaceOne]
    split <;> simp
  | deleteOne ns filter =>
    simp only [perform, deleteOne]
    split <;> simp
  | editMembership ns id membership field element =>
    simp only [perform, editMembership]
    split
    · rfl
    · split <;> simp

/-- **An accepted insertion adds the name of its namespace, if it is new.** -/
theorem namespaces_perform_of_receives {request : Request}
    (received : store.Receives ns spare request) :
    (store.perform spare request).2.namespaces =
      if ns ∈ store.namespaces then store.namespaces else store.namespaces ++ [ns] := by
  obtain ⟨document, key, rfl, accepted⟩ := received
  rw [← namespaces_opened]
  simp only [perform, insertOne] at accepted ⊢
  split at accepted
  · cases accepted
  · next fresh => rw [if_neg fresh, namespaces_update]

theorem Receives.namespace_eq {other : Namespace} {request : Request}
    (first : store.Receives ns spare request) (second : store.Receives other spare request) :
    ns = other := by
  obtain ⟨_, _, rfl, _⟩ := first
  obtain ⟨_, _, same, _⟩ := second
  cases same
  rfl

/-- **After a request a namespace is there if it was before or the request has brought it.** -/
theorem mem_namespaces_perform {request : Request} :
    ns ∈ (store.perform spare request).2.namespaces ↔
      ns ∈ store.namespaces ∨ store.Receives ns spare request := by
  by_cases brought : ∃ other, store.Receives other spare request
  · obtain ⟨other, received⟩ := brought
    have itself : store.Receives ns spare request ↔ ns = other :=
      ⟨fun also => also.namespace_eq received, fun same => same ▸ received⟩
    rw [namespaces_perform_of_receives received, itself]
    split
    · next known => exact ⟨.inl, fun either => either.elim id (· ▸ known)⟩
    · rw [List.mem_append, List.mem_singleton]
  · have nothing := not_exists.mp brought
    rw [namespaces_perform_of_not_receives nothing, or_iff_left (nothing ns)]

/-- **A request brings no name twice.** -/
theorem nodup_namespaces_perform (distinct : store.namespaces.Nodup) {request : Request} :
    (store.perform spare request).2.namespaces.Nodup := by
  by_cases brought : ∃ other, store.Receives other spare request
  · obtain ⟨other, received⟩ := brought
    rw [namespaces_perform_of_receives received]
    split
    · exact distinct
    · next fresh =>
      refine List.nodup_append.mpr ⟨distinct, by simp, fun known member new last same => ?_⟩
      rw [List.mem_singleton] at last
      exact fresh (last ▸ same ▸ member)
  · rwa [namespaces_perform_of_not_receives (not_exists.mp brought)]

/-! ### Runs -/

/-- A run brings a namespace with its first request or afterwards. -/
theorem received_cons {request : Request} {later : List (ObjectId × Request)} :
    store.Received ns ((spare, request) :: later) ↔
      store.Receives ns spare request ∨ (store.perform spare request).2.Received ns later := by
  constructor
  · rintro ⟨before, key, sent, after, parts, received⟩
    cases before with
    | nil =>
      obtain ⟨⟨rfl, rfl⟩, rfl⟩ := parts
      exact .inl received
    | cons first before =>
      obtain ⟨rfl, rfl⟩ := List.cons.inj parts
      exact .inr ⟨before, key, sent, after, rfl, received⟩
  · rintro (received | ⟨before, key, sent, after, rfl, received⟩)
    · exact ⟨[], spare, request, later, rfl, received⟩
    · exact ⟨(spare, request) :: before, key, sent, after, rfl, received⟩

/-- **After a run a namespace is there if it was before or the run has brought it.** -/
theorem mem_namespaces_afterRequests (run : List (ObjectId × Request)) :
    ns ∈ (Link.afterRequests store run).namespaces ↔ ns ∈ store.namespaces ∨ store.Received ns run := by
  induction run generalizing store with
  | nil =>
    refine (or_iff_left ?_).symm
    rintro ⟨before, spare, request, after, parts, _⟩
    exact List.append_ne_nil_of_right_ne_nil before (List.cons_ne_nil _ after) parts.symm
  | cons sent later ih =>
    obtain ⟨spare, request⟩ := sent
    rw [received_cons, ← or_assoc, ← mem_namespaces_perform]
    exact ih

theorem nodup_namespaces_afterRequests (distinct : store.namespaces.Nodup)
    (run : List (ObjectId × Request)) : (Link.afterRequests store run).namespaces.Nodup := by
  induction run generalizing store with
  | nil => exact distinct
  | cons sent later ih => exact ih (nodup_namespaces_perform distinct)

end Store

/-- **Failures leave no trace.** After any run from the store without namespaces, a request that fails
leaves the whole store, and so does a replacement or a deletion that finds no document. The namespaces
that are counted are exactly those into which some insertion of the run was accepted. -/
theorem failures_leave_no_trace (run : List (ObjectId × Request)) :
    let store := Link.afterRequests .empty run
    (∀ spare request error, (store.perform spare request).1 = .error error →
      (store.perform spare request).2 = store) ∧
    (∀ ns filter document, (store.replaceOne ns filter document).1 = 0 →
      (store.replaceOne ns filter document).2 = store) ∧
    (∀ ns filter, (store.deleteOne ns filter).1 = 0 → (store.deleteOne ns filter).2 = store) ∧
    ∃ received : List Namespace, received.Nodup ∧
      (∀ ns, ns ∈ received ↔ Store.empty.Received ns run) ∧
      store.namespaceCount = received.length := by
  intro store
  have unnamed : Store.empty.namespaces = [] := rfl
  refine ⟨fun _ _ _ => Store.perform_of_error, fun _ _ _ => Store.replaceOne_of_zero,
    fun _ _ => Store.deleteOne_of_zero, store.namespaces, ?_, fun ns => ?_, ?_⟩
  · exact Store.nodup_namespaces_afterRequests (unnamed ▸ List.nodup_nil) run
  · rw [Store.mem_namespaces_afterRequests, unnamed]
    exact or_iff_right List.not_mem_nil
  · exact (List.length_map _).symm

/-- A namespace counts on after its only document was removed. -/
example : (Link.afterRequests .empty [(⟨1⟩, .insertOne ⟨"school", "things"⟩ []),
    (⟨2⟩, .deleteOne ⟨"school", "things"⟩ .all)]).namespaceCount = 1 := by
  decide

end Syllabus
