/-
**A store behind a link that fails.**

* `Stage` — the points at which a call can fail or hang: one for each kind of request, and one more
  for the documents of a listing, which come after it was opened;
* `Link` — a store, the stages that hang or fail, and requests of others that come in between;
* `Link.respond` — how such a store answers: a call that hangs ends at the deadline.
-/

import Syllabus.Store.Request

namespace Syllabus

/-- The points at which a call can fail or hang. -/
inductive Stage where
  | findOne
  | insertOne
  | replaceOne
  | deleteOne
  | count
  | listAll
  | listItem
  | sync
  | ping
  deriving DecidableEq

/-- The first stage of a request. -/
def Request.stage : Request → Stage
  | .findOne _ _ => .findOne
  | .insertOne _ _ => .insertOne
  | .replaceOne _ _ _ => .replaceOne
  | .deleteOne _ _ => .deleteOne
  | .count _ _ => .count
  | .listAll _ => .listAll
  | .editMembership _ _ _ _ _ => .sync
  | .ping => .ping

/-- The later stages of a request. -/
def Request.laterStages : Request → List Stage
  | .listAll _ => [.listItem]
  | _ => []

/-- What a stage does instead of its work. -/
inductive Misbehaviour where
  /-- It never returns. -/
  | hangs
  /-- It returns an error. -/
  | fails (error : StoreError)

/-- Requests of others that come in once, right after a stage was passed. -/
structure Race where
  after : Stage
  /-- The requests, each with the spare key for its document. -/
  requests : List (ObjectId × Request)

/-- A store behind a link that fails. -/
structure Link where
  store : Store
  /-- The stages that do not do their work. -/
  faults : List (Stage × Misbehaviour)
  race : Option Race
  /-- The deadline of every call, in milliseconds. -/
  deadline : Nat

namespace Link

/-- What a stage does instead of its work, if anything. -/
def misbehaviour (link : Link) (stage : Stage) : Option Misbehaviour :=
  (link.faults.find? (·.1 = stage)).map (·.2)

/-- The stage never returns. -/
def hangsAt (link : Link) (stage : Stage) : Bool :=
  match link.misbehaviour stage with
  | some .hangs => true
  | _ => false

/-- The store after requests whose answers nobody awaits. -/
def afterRequests (store : Store) (requests : List (ObjectId × Request)) : Store :=
  requests.foldl (fun store (spare, request) => (store.perform spare request).2) store

/-- The link after a stage returned: requests of others that waited for it have come in. -/
def passed (link : Link) (stage : Stage) : Link :=
  match link.race with
  | some race =>
    if race.after = stage then
      { link with store := afterRequests link.store race.requests, race := none }
    else link
  | none => link

/-- The answer of a request after its later stages, none of which hangs: the first one that fails
fails the request. -/
def finish {α : Type} (answer : Except StoreError α) :
    List Stage → Link → Except StoreError α × Link
  | [], link => (answer, link)
  | stage :: stages, link =>
    match link.misbehaviour stage with
    | some (.fails error) => (.error error, link.passed stage)
    | _ => finish answer stages (link.passed stage)

/-- How the link answers a call. A call that hangs ends at the deadline, and nothing comes in after
it. -/
def respond (spare : ObjectId) (call : Call) (link : Link) : call.Answer × Link :=
  let stage := call.request.stage
  match link.misbehaviour stage with
  | some (.fails error) => (.error error, link.passed stage)
  | _ =>
    if (stage :: call.request.laterStages).any link.hangsAt then
      (.error (.timeout call.operation.text link.deadline), link)
    else
      let (answer, store) := link.store.perform spare call.request
      finish answer call.request.laterStages ({ link with store := store }.passed stage)

end Link

end Syllabus
