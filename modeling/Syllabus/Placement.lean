/-
**Where records are kept.**

* `isDatabaseName` — the names that the database of a course may have;
* `RecordKind.resolve` — the namespace of a kind: courses and users have one each, lessons and
  contents are kept in the database of their course.
-/

import Syllabus.Store.Error

namespace Syllabus

/-- The database of everything that belongs to no course. -/
def systemDatabase : String := "praromvik"

/-- The databases that no course may take. -/
def reservedDatabases : List String := ["admin", "local", "config", systemDatabase]

/-- The most bytes that the name of a database may have. -/
def maxDatabaseNameBytes : Nat := 63

/-- The characters that no name of a database may have. -/
def databaseSeparators : List Char := ['/', '\\', '.', '"', '$', ' ', '\x00']

/-- A character that the name of a database may have. Names are of one case, since the server takes
databases that differ in case alone for one. -/
def isDatabaseChar (c : Char) : Bool :=
  !databaseSeparators.contains c && !c.isUpper

/-- The name is usable for the database of a course. -/
def isDatabaseName (name : String) : Bool :=
  !name.isEmpty && name.utf8ByteSize ≤ maxDatabaseNameBytes &&
    name.toList.all isDatabaseChar && !reservedDatabases.contains name

/-- Refuses a name that no database of a course may have. -/
def checkDatabaseName (name : String) : Except StoreError Unit :=
  if isDatabaseName name then .ok () else .error (.invalidNamespace name)

/-- The namespace of the records of a kind. Lessons and contents need a course whose id is usable as
the name of a database; for the other kinds the course is of no account. -/
def RecordKind.resolve (kind : RecordKind) (course : Option String) :
    Except StoreError Namespace :=
  if kind.isCourseScoped then
    match course with
    | none => .error (.missingContext kind)
    | some name =>
      if name.isEmpty then .error (.missingContext kind)
      else (checkDatabaseName name).map fun _ => ⟨name, kind.collection⟩
  else .ok ⟨systemDatabase, kind.collection⟩

end Syllabus
