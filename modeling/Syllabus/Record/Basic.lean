/-
**Records.**

* `Record` — a type of records: its kind, its key, the course it belongs to, the fields whose values
  no two records may share;
* `Record.place` — where a record is kept; `Record.document` — the document it is kept as.
-/

import Syllabus.Codec.Fields
import Syllabus.Merge
import Syllabus.Placement

namespace Syllabus

/-- A type of records. -/
class Record (ρ : Type) extends Fielded ρ, Merge ρ where
  kind : RecordKind
  /-- The name of the key, as conflicts report it. -/
  idField : String
  /-- The key. -/
  id : ρ → String
  /-- The course whose database holds the record, for kinds that have one. -/
  course? : ρ → Option String
  /-- Fields besides the key whose values no two records may share, with their values. -/
  uniqueFields : ρ → List (String × String)

namespace Record

variable {ρ : Type} [Record ρ]

/-- Where a record is kept. -/
def place (record : ρ) : Except StoreError Namespace :=
  (kind ρ).resolve (course? record)

/-- The document of a record, without key and version. -/
def document (record : ρ) : Document :=
  Json.membersStored (fieldMembers record)

/-- The record that a document stands for. -/
def ofDocument (document : Document) : Except Fault ρ :=
  Codec.ofStored (.document document)

end Record

end Syllabus
