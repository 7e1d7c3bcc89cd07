/-
**Keeping records in a store.**

The operations on records of any type, as programs of single store calls. The store works on one
call at a time, and calls of other clients may come in between two of them.

* `Records.get`, `Records.list` — the record with a key, and all records of a namespace;
* `Records.create`, `Records.delete` — a new record at version 1, and the end of one;
* `Records.update` — a partial update, written only over the version that was read;
* `Records.checkUnique` — nobody has the key or another unique value of a record, at that moment;
* `Records.sync` — an edit of a membership list.
-/

import Syllabus.Record.Basic
import Syllabus.Store.Request

namespace Syllabus.Records

open StoreProgram (call)

variable {ρ : Type} [Record ρ]

/-- The report of a document that does not decode. -/
def faultText : Fault → String
  | .malformed => "malformed value"
  | .mismatch => "value of another kind"

/-- The record of a document. -/
def decode (ns : Namespace) (document : Document) : Except StoreError ρ :=
  match (Record.ofDocument document : Except Fault ρ) with
  | .ok record => .ok record
  | .error fault => .error (.decode ns (faultText fault))

/-- The records of documents, up to the first that does not decode. -/
def decodeAll (ns : Namespace) : List Document → Except StoreError (List ρ)
  | [] => .ok []
  | document :: rest =>
    match (decode ns document : Except StoreError ρ) with
    | .error error => .error error
    | .ok record => (decodeAll ns rest).map (record :: ·)

/-- The document of a record with key and version. -/
def stored (id : String) (version : Int64) (record : ρ) : Document :=
  ((Record.document record).insert idKey (.string id)).insert versionKey (.int64 version)

/-- The stored record that the template addresses. -/
def get (template : ρ) : StoreProgram StoreError ρ := do
  let ns ← Program.ofExcept (Record.place template)
  let found ← call .get (.findOne ns (.byId (Record.id template)))
  match found with
  | none => .fail (.notFound ns (Record.id template))
  | some document => Program.ofExcept (decode ns document)

/-- Stores a new record at version 1. -/
def create (record : ρ) : StoreProgram StoreError Unit := do
  let ns ← Program.ofExcept (Record.place record)
  let _ ← call .create (.insertOne ns (stored (Record.id record) 1 record))
  return ()

/-- Fails if a record, other than the one excluded, has the value under the key. -/
def ensureUnused (ns : Namespace) (field key value : String) (exclude : Option String) :
    StoreProgram StoreError Unit := do
  let filter := Filter.all.also key (.eq (.string value))
  let filter := match exclude with
    | some id => filter.also idKey (.ne (.string id))
    | none => filter
  let holders ← call .validate (.count ns filter)
  if 0 < holders then .fail (.conflict field value) else .done ()

/-- Fails if another record has one of the values. -/
def ensureAllUnused (ns : Namespace) (exclude : Option String) :
    List (String × String) → StoreProgram StoreError Unit
  | [] => .done ()
  | (field, value) :: rest => do
    ensureUnused ns field field value exclude
    ensureAllUnused ns exclude rest

/-- The unique values that a record has and its earlier form had not. -/
def introduced (before after : ρ) : List (String × String) :=
  (Record.uniqueFields after).filter fun (field, value) =>
    !value.isEmpty && !(Record.uniqueFields before).contains (field, value)

/-- Merges the update into the stored record and writes it back, if the stored version is still the
one that was read. Only unique values that the update introduces are checked. -/
def update (change : ρ) : StoreProgram StoreError ρ := do
  let ns ← Program.ofExcept (Record.place change)
  let id := Record.id change
  let found ← call .update (.findOne ns (.byId id))
  match found with
  | none => .fail (.notFound ns id)
  | some document =>
    let previous := (document.get? versionKey).getD .null
    let existing ← Program.ofExcept (decode ns document : Except StoreError ρ)
    let record := merge existing change
    ensureAllUnused ns (some id) (introduced existing record)
    let guard := (Filter.byId id).also versionKey (.eq previous)
    let replaced ← call .update
      (.replaceOne ns guard (stored id (versionNumber previous + 1) record))
    if replaced = 0 then .fail (.versionConflict ns id (versionNumber previous)) else .done record

/-- Removes the record that the template addresses. -/
def delete (template : ρ) : StoreProgram StoreError Unit := do
  let ns ← Program.ofExcept (Record.place template)
  let deleted ← call .delete (.deleteOne ns (.byId (Record.id template)))
  if deleted = 0 then .fail (.notFound ns (Record.id template)) else .done ()

/-- All records of the template's namespace, in order. -/
def list (template : ρ) : StoreProgram StoreError (List ρ) := do
  let ns ← Program.ofExcept (Record.place template)
  let documents ← call .list (.listAll ns)
  Program.ofExcept (decodeAll ns documents)

/-- Fails if a record has the key or another unique value of this one. Another client can still take
the key before the record is created; then the store refuses it. -/
def checkUnique (record : ρ) : StoreProgram StoreError Unit := do
  let ns ← Program.ofExcept (Record.place record)
  ensureUnused ns (Record.idField ρ) idKey (Record.id record) none
  ensureAllUnused ns none ((Record.uniqueFields record).filter fun (_, value) => !value.isEmpty)

/-- Adds a child to a membership list of the parent, or removes it. -/
def sync (parent : ρ) (membership : Membership) (field child : String) :
    StoreProgram StoreError Unit := do
  let ns ← Program.ofExcept (Record.place parent)
  call .sync (.editMembership ns (Record.id parent) membership field (.string child))

/-- Asks whether the store is there. -/
def ping : StoreProgram StoreError Unit :=
  call .ping .ping

end Syllabus.Records
