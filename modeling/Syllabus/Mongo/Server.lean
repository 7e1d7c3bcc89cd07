/-
**What a server does with a command.**

A server works on one command at a time. A change goes to the first document that its query finds,
and a change that fails leaves everything as it was.

* `Mongo.applyChange` — operators on a document, or a document in its place;
* `Mongo.serve` — a command on a store, and the reply.
-/

import Syllabus.Mongo.Command
import Syllabus.Store.Basic

namespace Syllabus.Mongo

/-- A list field with an element added: a missing field becomes a list, any other is refused. -/
def pushed (element : Bson) : Option Bson → Except Int Bson
  | some (.array items) => .ok (.array (items ++ [element]))
  | none => .ok (.array [element])
  | some _ => .error badValueCode

/-- A list field without the elements equal to one: a missing field stays missing, any other is
refused. -/
def pulled (element : Bson) : Option Bson → Except Int (Option Bson)
  | some (.array items) => .ok (some (.array (items.filter (!·.same element))))
  | none => .ok none
  | some _ => .error badValueCode

/-- A number with another added, in 64 bits; a missing one counts as zero. -/
def increased (amount : Int64) : Option Bson → Except Int Bson
  | some (.int64 value) => .ok (.int64 (value + amount))
  | some (.int32 value) => .ok (.int64 (value.toInt64 + amount))
  | none => .ok (.int64 amount)
  | some _ => .error typeMismatchCode

/-- A document after one operator on one field. -/
def applyOperator (operator field : String) (argument : Bson) (document : Document) :
    Except Int Document :=
  if operator = setOperator then .ok (document.insert field argument)
  else if operator = pushOperator then
    (pushed argument (document.get? field)).map (document.insert field ·)
  else if operator = pullOperator then
    (pulled argument (document.get? field)).map fun value => match value with
      | some value => document.insert field value
      | none => document
  else match argument with
    | .int64 amount =>
      if operator = incOperator then
        (increased amount (document.get? field)).map (document.insert field ·)
      else .error badValueCode
    | _ => .error badValueCode

/-- A document after operators in turn, each on one field. -/
def applyOperators : Document → Document → Except Int Document
  | [], document => .ok document
  | (operator, .document [(field, argument)]) :: rest, document =>
    match applyOperator operator field argument document with
    | .ok document => applyOperators rest document
    | .error code => .error code
  | _ :: _, _ => .error badValueCode

/-- The change is made of operators. -/
def hasOperators : Document → Bool
  | (name, _) :: _ => name.startsWith "$"
  | [] => false

/-- A document after a change: operators, or another document in its place. -/
def applyChange (change document : Document) : Except Int Document :=
  if hasOperators change then applyOperators change document
  else .ok (Store.replacement document change)

/-- Documents with the first one that the query finds changed, and how many were found. -/
def changeFirst (query : Document) (change : Document → Except Int Document) :
    List Document → Except Int (Nat × List Document)
  | [] => .ok (0, [])
  | document :: rest =>
    if Filter.asksAll query document then (change document).map fun changed => (1, changed :: rest)
    else (changeFirst query change rest).map fun (found, rest) => (found, document :: rest)

/-- A command on a store: the reply and the next store. -/
def serve (command : Command) (store : Store) : Reply × Store :=
  match command with
  | .find ns filter => (.batch ((store.documents ns).filter (Filter.asksAll filter)) false, store)
  | .insert ns documents =>
    let taken (document : Document) : Bool := match document.get? idKey with
      | some id => (store.documents ns).any (Store.holdsKey id)
      | none => false
    if documents.any taken then (.writeError duplicateKeyCode, store)
    else (.counted documents.length, (store.opened ns).update ns (· ++ documents))
  | .update ns query change =>
    match changeFirst query (applyChange change) (store.documents ns) with
    | .ok (found, documents) => (.counted found, store.update ns fun _ => documents)
    | .error code => (.writeError code, store)
  | .delete ns query =>
    if (store.documents ns).any (Filter.asksAll query) then
      (.counted 1, store.update ns (·.eraseP (Filter.asksAll query)))
    else (.counted 0, store)
  | .aggregate ns matching =>
    (.counted ((store.documents ns).countP (Filter.asksAll matching)), store)
  | .getMore _ => (.batch [] false, store)
  | .ping => (.counted 0, store)

end Syllabus.Mongo
