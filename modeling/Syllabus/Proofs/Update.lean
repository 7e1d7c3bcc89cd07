/-
**The calls of an update.**

An update reads its record, checks the values it introduces, and writes over the version it read. The
shape is told here once, for every record type, so that an argument on interleavings need not look
into the program again.

* `writeOver`, `settled` — the write of an update, and how it ends; `Settling` — what is left of an
  update that has read its record;
* `Settling.after_checks`, `Settling.bind_done` — with checks before, and with something done to the
  result in the end; `Settling.asks` — the calls that are left;
* **`update_eq_ask`** — an update is a call that reads, and is settling once a stored record was read.
-/

import Syllabus.Proofs.Asks
import Syllabus.Proofs.OneRecord

namespace Syllabus.Records

variable {ρ α β : Type} [Record ρ]

/-- The write of an update: over the version that was read, the next version with the record. -/
abbrev writeOver (ns : Namespace) (id : String) (version : Int64) (record : ρ) : Call :=
  ⟨.update, .replaceOne ns (.guard id (.int64 version)) (stored id (version + 1) record)⟩

/-- How an update ends, by the answer to its write. -/
def settled (ns : Namespace) (id : String) (version : Int64) (result : α) :
    Except StoreError Nat → StoreProgram StoreError α
  | .error error => .fail error
  | .ok replaced => if replaced = 0 then .fail (.versionConflict ns id version) else .done result

/-- What is left of an update that has read its record at a version: checks, then one write over that
version, which ends it. A failure can come before the write, or as its outcome if nothing was
replaced. -/
inductive Settling (ns : Namespace) (id : String) (version : Int64) (record : ρ) (result : α) :
    StoreProgram StoreError α → Prop
  | failed (error : StoreError) : Settling ns id version record result (.fail error)
  | checking (filter : Filter) (next : Except StoreError Nat → StoreProgram StoreError α) :
      (∀ answer, Settling ns id version record result (next answer)) →
      Settling ns id version record result (.ask ⟨.validate, .count ns filter⟩ next)
  | writing (next : Except StoreError Nat → StoreProgram StoreError α) :
      (∀ answer, next answer = settled ns id version result answer) →
      Settling ns id version record result (.ask (writeOver ns id version record) next)

namespace Settling

variable {ns : Namespace} {id : String} {version : Int64} {record : ρ} {result : α}

/-- Checks may come before what is left. -/
theorem after_checks {checks : StoreProgram StoreError Unit} (counts : checks.Asks (Call.Counts ns))
    {rest : StoreProgram StoreError α} (settling : Settling ns id version record result rest) :
    Settling ns id version record result (checks >>= fun _ => rest) := by
  induction counts with
  | done value => exact settling
  | fail error => exact .failed error
  | ask call next here _ ih =>
    obtain ⟨filter, rfl⟩ := here
    exact .checking filter _ ih

/-- What is done to the result leaves the calls. -/
theorem bind_done {program : StoreProgram StoreError α}
    (settling : Settling ns id version record result program) (f : α → β) :
    Settling ns id version record (f result) (program >>= fun value => .done (f value)) := by
  induction settling with
  | failed error => exact .failed error
  | checking filter next _ ih => exact .checking filter _ ih
  | writing next ends =>
    refine .writing _ fun answer => ?_
    show (next answer).bind _ = _
    rw [ends]
    cases answer with
    | error error => rfl
    | ok replaced => cases replaced <;> rfl

/-- The calls that are left of an update: checks and the write. -/
theorem asks {program : StoreProgram StoreError α}
    (settling : Settling ns id version record result program) :
    program.Asks fun call => call.Counts ns ∨ call = writeOver ns id version record := by
  induction settling with
  | failed error => exact .fail error
  | checking filter next _ ih =>
    refine .ask _ _ ?_ ih
    exact .inl ⟨filter, rfl⟩
  | writing next ends =>
    refine .ask _ _ ?_ fun answer => ?_
    · exact .inr rfl
    rw [ends]
    cases answer with
    | error error => exact .fail error
    | ok replaced =>
      cases replaced with
      | zero => exact .fail _
      | succ more => exact .done result

end Settling

/-- **An update reads its record first.** It fails if there is none; once it has read the record at a
version, it is settling with the merged record over that version. -/
theorem update_eq_ask [LawfulRecord ρ] {change : ρ} {ns : Namespace} {id : String}
    (placed : Record.place change = .ok ns) (keyed : Record.id change = id) :
    ∃ next : Except StoreError (Option Document) → StoreProgram StoreError ρ,
      update change = .ask ⟨.update, .findOne ns (.byId id)⟩ next ∧
      next (.ok none) = .fail (.notFound ns id) ∧
      ∀ version (record : ρ),
        Settling ns id version (merge record change) (merge record change)
          (next (.ok (some (stored id version record)))) := by
  subst keyed
  unfold update
  rw [placed]
  refine ⟨_, rfl, rfl, fun version record => ?_⟩
  have read : (decode ns (stored (Record.id change) version record) : Except StoreError ρ) =
      .ok record := decode_stored ..
  have counted : (Document.get? versionKey (stored (Record.id change) version record)).getD .null =
      .int64 version := readVersion_stored ..
  show Settling ns _ version _ _
    (Program.ofExcept (decode ns (stored (Record.id change) version record)) >>= _)
  rw [read]
  refine Settling.after_checks (asks_ensureAllUnused ns _ _) ?_
  -- The type of the answer mentions the version, so the term is replaced as a whole.
  generalize (Document.get? versionKey (stored (Record.id change) version record)).getD .null =
    previous at counted ⊢
  subst counted
  exact .writing _ fun answer => by cases answer <;> rfl

end Syllabus.Records
