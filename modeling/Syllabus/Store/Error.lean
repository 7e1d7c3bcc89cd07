/-
**What a store call can fail with.**

* `StoreError` — the causes; `StoreError.message` — their wording;
* `StoreError.isBackend` — the connection failed, not the data.
-/

import Syllabus.Namespace
import Syllabus.Text.Numeral

namespace Syllabus

/-- Why a call to the store, or one of the records service, failed. -/
inductive StoreError where
  /-- A setting without which no connection can be made. -/
  | configMissing (name : String)
  /-- A record of a course came without the course. -/
  | missingContext (kind : RecordKind)
  /-- The id of a course cannot be the name of a database. -/
  | invalidNamespace (name : String)
  | notFound (ns : Namespace) (id : String)
  /-- The store has a document with this key. -/
  | duplicateKey (ns : Namespace) (id : String)
  /-- Another record has this value in a field that is unique. -/
  | conflict (field value : String)
  /-- The document changed between reading and writing. -/
  | versionConflict (ns : Namespace) (id : String) (expected : Int64)
  /-- A membership list is not a list. -/
  | notAnArray (ns : Namespace) (id field : String)
  /-- A document does not decode as a record. -/
  | decode (ns : Namespace) (detail : String)
  /-- A record could not be stored. -/
  | encode (detail : String)
  /-- The call did not return before the deadline, in milliseconds. -/
  | timeout (operation : String) (elapsed : Nat)
  /-- The server or the connection to it failed. -/
  | backend (detail : String)
  deriving DecidableEq

namespace StoreError

/-- The wording of an error. -/
def message : StoreError → String
  | .configMissing name => "Missing configuration: " ++ name
  | .missingContext kind => "Missing context key for " ++ kind.text ++ " namespace"
  | .invalidNamespace name => "Invalid namespace key: " ++ name
  | .notFound ns id => "Not found: '" ++ id ++ "' in " ++ ns.text
  | .duplicateKey ns id => "Duplicate key: '" ++ id ++ "' already exists in " ++ ns.text
  | .conflict field value => field ++ " '" ++ value ++ "' already exists"
  | .versionConflict ns id expected =>
    "'" ++ id ++ "' in " ++ ns.text ++ " was modified concurrently (expected version " ++
      String.ofList (Text.integerNumeral expected.toInt) ++ ")"
  | .notAnArray ns id field => "Field '" ++ field ++ "' of '" ++ id ++ "' in " ++ ns.text ++
      " is not an array"
  | .decode ns detail => "Failed to decode document from " ++ ns.text ++ ": " ++ detail
  | .encode detail => "Failed to encode document: " ++ detail
  | .timeout operation elapsed =>
    operation ++ " timed out after " ++ String.ofList (Text.numeral elapsed) ++ "ms"
  | .backend detail => detail

/-- The failure is the connection's, not the data's. -/
def isBackend : StoreError → Bool
  | .backend _ | .timeout _ _ => true
  | _ => false

end StoreError

end Syllabus
