/-
**A document store on a database server.**

* `Mongo.connect` — the first contact, which pings the server once; `Mongo.logged` — what is logged
  before it;
* `Mongo.perform` — a request to the store, as commands to the server.
-/

import Syllabus.Mongo.Command
import Syllabus.Mongo.Uri
import Syllabus.Settings
import Syllabus.Store.Request

namespace Syllabus.Mongo

/-- The name that the interface gives to this backend. -/
def backendName : String := "mongodb"

/-- The report of a reply that tells of no success. -/
def failureText : Reply → String
  | .writeError code => "write error " ++ String.ofList (Text.integerNumeral code)
  | .commandError code => "command error " ++ String.ofList (Text.integerNumeral code)
  | .unreachable => "server unreachable"
  | .counted _ | .batch _ _ => "unexpected reply"

/-- A reply that tells of no success. -/
def failure (reply : Reply) : StoreError :=
  .backend (failureText reply)

/-- Sends a command that is answered with a number. -/
def send (command : Command) : Exchange StoreError Nat := do
  match ← Program.question command with
  | .counted number => return number
  | reply => .fail (failure reply)

/-- Sends a change of a list field, which fails on a field that is not a list. -/
def sendListChange (ns : Namespace) (id field : String) (query change : Document) :
    Exchange StoreError Nat := do
  match ← Program.question (.update ns query change) with
  | .counted number => return number
  | .writeError code =>
    if code = badValueCode ∨ code = typeMismatchCode then .fail (.notAnArray ns id field)
    else .fail (failure (.writeError code))
  | reply => .fail (failure reply)

/-- The query for one key. -/
def byId (id : String) : Document :=
  [(idKey, .string id)]

/-! ### Connecting -/

/-- Asks whether the server is there, which any reply to a command that was carried out tells. -/
def ping : Exchange StoreError Unit := do
  match ← Program.question .ping with
  | .commandError code => .fail (failure (.commandError code))
  | .unreachable => .fail (failure .unreachable)
  | .counted _ | .batch _ _ | .writeError _ => return ()

/-- What is logged before a connection is made: the address without its credentials. -/
def logged (settings : DatabaseSettings) : Option String :=
  settings.uri.map redacted

/-- The first contact with the server that the settings name. -/
def connect (settings : DatabaseSettings) : Exchange StoreError Unit :=
  match settings.uri with
  | none => .fail (.configMissing "MONGODB_URI")
  | some _ => ping

/-! ### Requests -/

/-- The first document that meets a filter. -/
def findOne (ns : Namespace) (filter : Filter) : Exchange StoreError (Option Document) := do
  match ← Program.question (.find ns filter.document) with
  | .batch documents _ => return documents.head?
  | reply => .fail (failure reply)

/-- Adds a document and answers its key. A document without one gets the spare key, as its first
field. -/
def insertOne (spare : ObjectId) (ns : Namespace) (document : Document) :
    Exchange StoreError Bson := do
  let (id, keyText, document) := match document.get? idKey with
    | some id => (id, id.keyText, document)
    | none => (.objectId spare, "", (idKey, .objectId spare) :: document)
  match ← Program.question (.insert ns [document]) with
  | .counted _ => return id
  | .writeError code =>
    if code = duplicateKeyCode then .fail (.duplicateKey ns keyText)
    else .fail (failure (.writeError code))
  | reply => .fail (failure reply)

/-- The remaining batches of a listing, at most as many as told. -/
def fetchMore (ns : Namespace) : Nat → Exchange StoreError (List Document)
  | 0 => return []
  | batches + 1 => do
    match ← Program.question (.getMore ns.database) with
    | .batch documents more =>
      if more then return documents ++ (← fetchMore ns batches) else return documents
    | reply => .fail (failure reply)

/-- All documents of a namespace, in at most as many more batches as told. -/
def listAll (batches : Nat) (ns : Namespace) : Exchange StoreError (List Document) := do
  match ← Program.question (.find ns []) with
  | .batch documents more =>
    if more then return documents ++ (← fetchMore ns batches) else return documents
  | reply => .fail (failure reply)

/-- Fails if no document was found. -/
def ensureFound (ns : Namespace) (id : String) (found : Nat) : Exchange StoreError Unit :=
  if found = 0 then .fail (.notFound ns id) else .done ()

/-- Adds an element to a list field. A missing or null field is set first, since the server pushes
onto lists only. -/
def push (ns : Namespace) (id field : String) (element : Bson) : Exchange StoreError Unit := do
  let initialised ← send (.update ns (Document.insert field .null (byId id))
    (versionedChange setOperator field (.array [element])))
  if 0 < initialised then return ()
  else
    let pushed ← sendListChange ns id field (byId id) (versionedChange pushOperator field element)
    ensureFound ns id pushed

/-- Removes an element from a list field. Only a document that holds the element is changed; another
is looked for by its key alone. -/
def pull (ns : Namespace) (id field : String) (element : Bson) : Exchange StoreError Unit := do
  let pulled ← sendListChange ns id field (Document.insert field element (byId id))
    (versionedChange pullOperator field element)
  if 0 < pulled then return ()
  else
    let found ← send (.aggregate ns (byId id))
    ensureFound ns id found

/-- An edit of a list field. -/
def editMembership (ns : Namespace) (id : String) (membership : Membership) (field : String)
    (element : Bson) : Exchange StoreError Unit :=
  match membership with
  | .push => push ns id field element
  | .pull => pull ns id field element

/-- A request to the store, as commands to the server. Listings are fetched in at most as many more
batches as told. -/
def perform (spare : ObjectId) (batches : Nat) :
    (request : Request) → Exchange StoreError request.Answer
  | .findOne ns filter => findOne ns filter
  | .insertOne ns document => insertOne spare ns document
  | .replaceOne ns filter document => send (.update ns filter.document document)
  | .deleteOne ns filter => send (.delete ns filter.document)
  | .count ns filter => send (.aggregate ns filter.document)
  | .listAll ns => listAll batches ns
  | .editMembership ns id membership field element => editMembership ns id membership field element
  | .ping => ping

end Syllabus.Mongo
