/-
**Commands to a database server.**

* `Mongo.Command`, `Mongo.Reply` — what is sent and what comes back;
* `Mongo.Exchange` — programs whose questions are commands.
-/

import Syllabus.Filter
import Syllabus.Namespace
import Syllabus.Program

namespace Syllabus.Mongo

/-- One command to a server. -/
inductive Command where
  | find (ns : Namespace) (filter : Document)
  | insert (ns : Namespace) (documents : List Document)
  /-- A change of the first document that the query finds: operators, or a document in its place. -/
  | update (ns : Namespace) (query change : Document)
  | delete (ns : Namespace) (query : Document)
  /-- A count of the documents that match. -/
  | aggregate (ns : Namespace) (matching : Document)
  /-- The next batch of a listing. -/
  | getMore (database : String)
  | ping

/-- What comes back. -/
inductive Reply where
  /-- Done, with the number of documents found, written or counted. -/
  | counted (number : Nat)
  /-- A batch of documents, with or without more to fetch. -/
  | batch (documents : List Document) (more : Bool)
  /-- The command was carried out, but not the write, for a reason with this code. -/
  | writeError (code : Int)
  /-- The command was not carried out, for a reason with this code. -/
  | commandError (code : Int)
  /-- Nothing: the server cannot be reached. -/
  | unreachable

/-- Programs whose questions are commands. -/
abbrev Exchange (ε α : Type) := Program Command (fun _ => Reply) ε α

/-- The server's code for a key that is taken. -/
def duplicateKeyCode : Int := 11000

/-- The server's code for an operator on a value it does not suit. -/
def badValueCode : Int := 2

/-- The server's code for a value of the wrong type. -/
def typeMismatchCode : Int := 14

/-! ### Operators -/

/-- Replaces a field. -/
def setOperator : String := "$set"

/-- Adds an element to a list. -/
def pushOperator : String := "$push"

/-- Removes elements from a list. -/
def pullOperator : String := "$pull"

/-- Adds to a number. -/
def incOperator : String := "$inc"

/-- The change that applies an operator to a field and counts the document's version. -/
def versionedChange (operator field : String) (value : Bson) : Document := [
  (operator, .document [(field, value)]),
  (incOperator, .document [(versionKey, .int64 1)])]

end Syllabus.Mongo
