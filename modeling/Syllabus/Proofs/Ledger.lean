/-
**A ledger of records.**

What the operations on records come to, told without documents, keys in documents or versions: for every
kind of records and every namespace a page of records under their ids, in the order of their creation.

* `Page` — the records of a namespace; `Page.create`, `Page.update`, `Page.delete`, `Page.sync` — what
  changes them; `Page.get`, `Page.validate` — what is asked of them;
* `Ledger` — the pages; `Errand` — one operation on records of any kind, as a program of store calls;
* `Ledger.perform` — the same operation on the ledger;
* **`Ledger.isInternal_of_perform`** — it never fails for a version or a document.
-/

import Mathlib.Logic.Function.Basic
import Syllabus.Proofs.Listing

namespace Syllabus

/-- Records under their ids, in the order of their creation. -/
abbrev Page (ρ : Type) := List (String × ρ)

namespace Page

variable {ρ : Type} [Record ρ]

/-- The page with the record under an id changed, in its place. -/
def changeAt (id : String) (change : ρ → ρ) (page : Page ρ) : Page ρ :=
  page.map fun (key, record) => (key, if key = id then change record else record)

/-- The first of the values that a record has, other than the one excluded. -/
def clash? (page : Page ρ) (exclude : Option String) (values : List (String × String)) :
    Option (String × String) :=
  values.find? fun value => page.any fun (key, record) =>
    some key ≠ exclude ∧ value ∈ Record.uniqueFields record

/-- The values that no two records may share, as far as they are set. -/
def claims (record : ρ) : List (String × String) :=
  (Record.uniqueFields record).filter fun (_, value) => value ≠ ""

/-- A new record comes last, if its id is free. -/
def create (ns : Namespace) (record : ρ) (page : Page ρ) : Except StoreError Unit × Page ρ :=
  match page.lookup (Record.id record) with
  | some _ => (.error (.duplicateKey ns (Record.id record)), page)
  | none => (.ok (), page ++ [(Record.id record, record)])

/-- The record under an id. -/
def get (ns : Namespace) (id : String) (page : Page ρ) : Except StoreError ρ :=
  match page.lookup id with
  | none => .error (.notFound ns id)
  | some record => .ok record

/-- The update is merged into the record under its id, unless this claims a value that it had not and
another record has. -/
def update (ns : Namespace) (change : ρ) (page : Page ρ) : Except StoreError ρ × Page ρ :=
  match page.lookup (Record.id change) with
  | none => (.error (.notFound ns (Record.id change)), page)
  | some existing =>
    let record := merge existing change
    let claimed := (claims record).filter (· ∉ Record.uniqueFields existing)
    match page.clash? (some (Record.id change)) claimed with
    | some (field, value) => (.error (.conflict field value), page)
    | none => (.ok record, page.changeAt (Record.id change) fun _ => record)

/-- The record under an id is removed. -/
def delete (ns : Namespace) (id : String) (page : Page ρ) : Except StoreError Unit × Page ρ :=
  match page.lookup id with
  | none => (.error (.notFound ns id), page)
  | some _ => (.ok (), page.eraseP (·.1 == id))

/-- Neither the id of the record nor a value that it claims may be taken. -/
def validate (record : ρ) (page : Page ρ) : Except StoreError Unit :=
  match page.lookup (Record.id record) with
  | some _ => .error (.conflict (Record.idField ρ) (Record.id record))
  | none =>
    match page.clash? none (claims record) with
    | some (field, value) => .error (.conflict field value)
    | none => .ok ()

/-- The list of the record under an id is edited. -/
def sync {kind : RecordKind} (ns : Namespace) (listing : Listing kind) (id : String)
    (membership : Membership) (child : String) (page : Page kind.Carrier) :
    Except StoreError Unit × Page kind.Carrier :=
  match page.lookup id with
  | none => (.error (.notFound ns id), page)
  | some _ => (.ok (), page.changeAt id (listing.edited membership child))

end Page

/-- One operation on records. -/
inductive Errand where
  | create (kind : RecordKind) (record : kind.Carrier)
  | get (kind : RecordKind) (template : kind.Carrier)
  | update (kind : RecordKind) (change : kind.Carrier)
  | delete (kind : RecordKind) (template : kind.Carrier)
  | list (kind : RecordKind) (template : kind.Carrier)
  | validate (kind : RecordKind) (record : kind.Carrier)
  | sync (kind : RecordKind) (listing : Listing kind) (membership : Membership)
      (parent : kind.Carrier) (child : String)

namespace Errand

/-- What it returns. -/
@[reducible]
def Result : Errand → Type
  | .create _ _ | .delete _ _ | .validate _ _ | .sync _ _ _ _ _ => Unit
  | .get kind _ | .update kind _ => kind.Carrier
  | .list kind _ => List kind.Carrier

/-- Its calls to a store. -/
def program : (errand : Errand) → StoreProgram StoreError errand.Result
  | .create _ record => Records.create record
  | .get _ template => Records.get template
  | .update _ change => Records.update change
  | .delete _ template => Records.delete template
  | .list _ template => Records.list template
  | .validate _ record => Records.checkUnique record
  | .sync _ listing membership parent child => Records.sync parent membership listing.field child

/-- What came back of an errand. -/
abbrev Reply := (errand : Errand) × Except StoreError errand.Result

end Errand

/-- A page for every kind of records and every namespace. -/
structure Ledger where
  page : (kind : RecordKind) → Namespace → Page kind.Carrier

namespace Ledger

/-- The ledger without records. -/
def empty : Ledger := ⟨fun _ _ => []⟩

/-- The ledger with another page. -/
def turn (ledger : Ledger) (kind : RecordKind) (ns : Namespace) (page : Page kind.Carrier) : Ledger :=
  ⟨Function.update ledger.page kind (Function.update (ledger.page kind) ns page)⟩

/-- Works on the page where a record has its place, if there is one for it. -/
def onPage {α : Type} (ledger : Ledger) (kind : RecordKind) (template : kind.Carrier)
    (work : Namespace → Page kind.Carrier → Except StoreError α × Page kind.Carrier) :
    Except StoreError α × Ledger :=
  match Record.place template with
  | .error error => (.error error, ledger)
  | .ok ns =>
    let (answer, page) := work ns (ledger.page kind ns)
    (answer, ledger.turn kind ns page)

/-- An errand on the ledger. -/
def perform (ledger : Ledger) : (errand : Errand) → Except StoreError errand.Result × Ledger
  | .create kind record => ledger.onPage kind record fun ns => Page.create ns record
  | .get kind template => ledger.onPage kind template fun ns page =>
    (Page.get ns (Record.id template) page, page)
  | .update kind change => ledger.onPage kind change fun ns => Page.update ns change
  | .delete kind template => ledger.onPage kind template fun ns => Page.delete ns (Record.id template)
  | .list kind template => ledger.onPage kind template fun _ page => (.ok (page.map (·.2)), page)
  | .validate kind record => ledger.onPage kind record fun _ page => (Page.validate record page, page)
  | .sync kind listing membership parent child => ledger.onPage kind parent fun ns =>
    Page.sync ns listing (Record.id parent) membership child

/-- What comes back of errands, one after another. -/
def replies (ledger : Ledger) : List Errand → List Errand.Reply
  | [] => []
  | errand :: rest =>
    let (answer, ledger) := ledger.perform errand
    ⟨errand, answer⟩ :: ledger.replies rest

@[simp]
theorem turn_self (ledger : Ledger) (kind : RecordKind) (ns : Namespace) (page : Page kind.Carrier) :
    (ledger.turn kind ns page).page kind ns = page := by
  simp [turn]

theorem turn_of_ne {kind other : RecordKind} {ns there : Namespace} (different : there ≠ ns)
    (ledger : Ledger) (page : Page kind.Carrier) :
    (ledger.turn kind ns page).page other there = ledger.page other there := by
  by_cases same : other = kind
  · subst same
    simp [turn, different]
  · simp [turn, same]

end Ledger

/-- The error tells of a version that was overwritten, or of a document that does not decode. -/
def StoreError.isInternal : StoreError → Bool
  | .versionConflict _ _ _ | .decode _ _ => true
  | _ => false

namespace Ledger

/-- Where there is no place for a record, this is for want of a course, or for its name. -/
theorem isInternal_of_place {ρ : Type} [Record ρ] {record : ρ} {error : StoreError}
    (placeless : Record.place record = .error error) : error.isInternal = false := by
  unfold Record.place RecordKind.resolve checkDatabaseName at placeless
  split at placeless
  · split at placeless
    · cases placeless
      rfl
    · split at placeless
      · cases placeless
        rfl
      · split at placeless
        · cases placeless
        · cases placeless
          rfl
  · cases placeless

/-- **The ledger has no versions to conflict and no documents to decode.** -/
theorem isInternal_of_perform {ledger : Ledger} {errand : Errand} {error : StoreError}
    (failed : (ledger.perform errand).1 = .error error) : error.isInternal = false := by
  have onPage : ∀ {α : Type} {kind : RecordKind} {template : kind.Carrier}
      {work : Namespace → Page kind.Carrier → Except StoreError α × Page kind.Carrier},
      (∀ ns page, (work ns page).1 = .error error → error.isInternal = false) →
      (ledger.onPage kind template work).1 = .error error → error.isInternal = false := by
    intro α kind template work works failed
    unfold Ledger.onPage at failed
    split at failed
    · next placeless => exact isInternal_of_place (Except.error.inj failed ▸ placeless)
    · exact works _ _ failed
  cases errand
  all_goals
    refine onPage (fun ns page failed => ?_) failed
    simp only [Page.create, Page.get, Page.update, Page.delete, Page.validate, Page.sync] at failed
    repeat' split at failed
    all_goals cases failed
    all_goals rfl

end Ledger

end Syllabus
