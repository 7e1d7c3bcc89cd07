/-
**Requests to a store.**

* `Request` — one call to a store, `Request.Answer` — what it answers with;
* `Operation` — what a call is made for, as a report on a missed deadline names it;
* `StoreProgram` — programs whose questions are calls to a store;
* `Store.perform` — the document store's answer to a request and the next store;
* `Store.respond` — the store as the one who answers a program's calls.
-/

import Syllabus.Program
import Syllabus.Store.Basic

namespace Syllabus

/-- One call to a store. -/
inductive Request where
  | findOne (ns : Namespace) (filter : Filter)
  | insertOne (ns : Namespace) (document : Document)
  | replaceOne (ns : Namespace) (filter : Filter) (document : Document)
  | deleteOne (ns : Namespace) (filter : Filter)
  | count (ns : Namespace) (filter : Filter)
  | listAll (ns : Namespace)
  | editMembership (ns : Namespace) (id : String) (membership : Membership) (field : String)
      (element : Bson)
  | ping

/-- What a call answers with, if it does not fail. -/
@[reducible]
def Request.Answer : Request → Type
  | .findOne _ _ => Option Document
  | .insertOne _ _ => Bson
  | .replaceOne _ _ _ => Nat
  | .deleteOne _ _ => Nat
  | .count _ _ => Nat
  | .listAll _ => List Document
  | .editMembership _ _ _ _ _ => Unit
  | .ping => Unit

/-- What a call to the store is made for. -/
inductive Operation where
  | get
  | create
  | update
  | delete
  | list
  | validate
  | sync
  | ping
  deriving DecidableEq

/-- The word for an operation. -/
def Operation.text : Operation → String
  | .get => "get"
  | .create => "create"
  | .update => "update"
  | .delete => "delete"
  | .list => "list"
  | .validate => "validate"
  | .sync => "sync"
  | .ping => "ping"

/-- A call to the store and what it is made for. -/
structure Call where
  operation : Operation
  request : Request

/-- The answer to a call: the request's answer or an error. -/
@[reducible]
def Call.Answer (call : Call) : Type :=
  Except StoreError call.request.Answer

/-- Programs whose questions are calls to a store. -/
abbrev StoreProgram (ε α : Type) := Program Call Call.Answer ε α

namespace StoreProgram

/-- The program that makes one call and fails if the call does. -/
def call (operation : Operation) (request : Request) : StoreProgram StoreError request.Answer := do
  let answer ← Program.question ⟨operation, request⟩
  Program.ofExcept answer

end StoreProgram

/-- The document store's answer to a request, and the next store. The spare key is for a document
that comes without one. -/
def Store.perform (spare : ObjectId) (store : Store) :
    (request : Request) → Except StoreError request.Answer × Store
  | .findOne ns filter => (.ok (store.findOne ns filter), store)
  | .insertOne ns document => store.insertOne spare ns document
  | .replaceOne ns filter document =>
    let (replaced, store) := store.replaceOne ns filter document
    (.ok replaced, store)
  | .deleteOne ns filter =>
    let (deleted, store) := store.deleteOne ns filter
    (.ok deleted, store)
  | .count ns filter => (.ok (store.count ns filter), store)
  | .listAll ns => (.ok (store.documents ns), store)
  | .editMembership ns id membership field element =>
    store.editMembership ns id membership field element
  | .ping => (.ok (), store)

/-- The store answers every call, and none is late. -/
def Store.respond (spare : ObjectId) (call : Call) (store : Store) : call.Answer × Store :=
  store.perform spare call.request

end Syllabus
