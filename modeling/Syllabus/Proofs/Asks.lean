/-
**What a program asks.**

* `Program.Asks` — all questions that a program can come to have a property; closed under sequencing;
* `Program.Asks.run_preserves` — what the answers to such questions keep, a run keeps;
* `Records.asks_checkUnique`, `Records.asks_ensureAllUnused` — checks of values only count;
* `Call.Reads`, `Call.Within` — a call that only reads, or writes to no other namespace;
  `Records.asks_get`, `Records.asks_create` and the like — the calls of the operations on records.
-/

import Syllabus.Records

namespace Syllabus

namespace Program

variable {Q : Type} {A : Q → Type} {ε α β σ : Type}

/-- All questions that the program can come to have the property. -/
inductive Asks (P : Q → Prop) : Program Q A ε α → Prop
  | done (value : α) : Asks P (.done value)
  | fail (error : ε) : Asks P (.fail error)
  | ask (question : Q) (next : A question → Program Q A ε α) :
      P question → (∀ answer, Asks P (next answer)) → Asks P (.ask question next)

namespace Asks

variable {P P' : Q → Prop}

theorem mono (weaker : ∀ question, P question → P' question) {program : Program Q A ε α}
    (asks : Asks P program) : Asks P' program := by
  induction asks with
  | done value => exact .done value
  | fail error => exact .fail error
  | ask question next here _ ih => exact .ask question next (weaker question here) ih

theorem bind {program : Program Q A ε α} (first : Asks P program) {next : α → Program Q A ε β}
    (rest : ∀ value, Asks P (next value)) : Asks P (program >>= next) := by
  induction first with
  | done value => exact rest value
  | fail error => exact .fail error
  | ask question next here _ ih => exact .ask question _ here ih

theorem mapError {ε' : Type} {program : Program Q A ε α} (asks : Asks P program) (change : ε → ε') :
    Asks P (program.mapError change) := by
  induction asks with
  | done value => exact .done value
  | fail error => exact .fail _
  | ask question next here _ ih => exact .ask question _ here ih

theorem ofExcept (value : Except ε α) : Asks P (Program.ofExcept value : Program Q A ε α) := by
  cases value with
  | ok value => exact .done value
  | error error => exact .fail error

/-- **What the answers keep, a run keeps.** -/
theorem run_preserves {program : Program Q A ε α} (asks : Asks P program)
    {respond : (question : Q) → σ → A question × σ} {Inv : σ → Prop}
    (keeps : ∀ question state, P question → Inv state → Inv (respond question state).2)
    {state : σ} (start : Inv state) : Inv (program.run respond state).2 := by
  induction asks generalizing state with
  | done value => exact start
  | fail error => exact start
  | ask question next here _ ih => exact ih _ (keeps question state here start)

end Asks

end Program

/-- The namespace that a request may write to, if it is a write. -/
def Request.target? : Request → Option Namespace
  | .insertOne ns _ | .replaceOne ns _ _ | .deleteOne ns _ | .editMembership ns _ _ _ _ => some ns
  | _ => none

/-- The call only reads. -/
def Call.Reads (call : Call) : Prop :=
  call.request.target? = none

theorem Call.reads_findOne (operation : Operation) (ns : Namespace) (filter : Filter) :
    Call.Reads ⟨operation, .findOne ns filter⟩ := rfl

theorem Call.reads_listAll (operation : Operation) (ns : Namespace) :
    Call.Reads ⟨operation, .listAll ns⟩ := rfl

/-- The call writes to no namespace but this one. -/
def Call.Within (ns : Namespace) (call : Call) : Prop :=
  ∀ written, call.request.target? = some written → written = ns

theorem Call.Reads.within {call : Call} (reads : call.Reads) (ns : Namespace) : call.Within ns := by
  intro written target
  rw [reads] at target
  cases target

/-- The call counts documents of a namespace. -/
def Call.Counts (ns : Namespace) (call : Call) : Prop :=
  ∃ filter, call = ⟨.validate, .count ns filter⟩

theorem Call.Counts.reads {ns : Namespace} {call : Call} (counts : call.Counts ns) : call.Reads := by
  obtain ⟨filter, rfl⟩ := counts
  rfl

namespace Records

variable {ρ : Type} [Record ρ]

theorem asks_call {P : Call → Prop} {operation : Operation} {request : Request}
    (here : P ⟨operation, request⟩) : (StoreProgram.call operation request).Asks P :=
  .ask _ _ here fun answer => .ofExcept answer

theorem asks_ensureUnused (ns : Namespace) (field key value : String) (exclude : Option String) :
    (ensureUnused ns field key value exclude).Asks (Call.Counts ns) := by
  refine (asks_call ⟨_, rfl⟩).bind fun holders => ?_
  split
  · exact .fail _
  · exact .done ()

/-- Checks of values only count. -/
theorem asks_ensureAllUnused (ns : Namespace) (exclude : Option String)
    (values : List (String × String)) :
    (ensureAllUnused ns exclude values).Asks (Call.Counts ns) := by
  induction values with
  | nil => exact .done ()
  | cons value values ih => exact (asks_ensureUnused ns _ _ _ exclude).bind fun _ => ih

/-- The check of a record's unique values only counts. -/
theorem asks_checkUnique {record : ρ} {ns : Namespace} (placed : Record.place record = .ok ns) :
    (checkUnique record).Asks (Call.Counts ns) := by
  unfold checkUnique
  rw [placed]
  exact (asks_ensureUnused ns _ _ _ none).bind fun _ => asks_ensureAllUnused ns none _

/-! ### What the operations write to -/

theorem asks_get (template : ρ) : (get template).Asks Call.Reads := by
  refine (Program.Asks.ofExcept _).bind fun ns => ?_
  refine (asks_call (Call.reads_findOne _ ns _)).bind fun found => ?_
  cases found with
  | none => exact .fail _
  | some document => exact .ofExcept _

theorem asks_list (template : ρ) : (list template).Asks Call.Reads :=
  (Program.Asks.ofExcept _).bind fun ns =>
    (asks_call (Call.reads_listAll _ ns)).bind fun _ => .ofExcept _

theorem asks_ping : ping.Asks Call.Reads :=
  asks_call rfl

section Placed

variable {record : ρ} {ns : Namespace}

theorem asks_create (placed : Record.place record = .ok ns) :
    (create record).Asks (Call.Within ns) := by
  unfold create
  rw [placed]
  refine Program.Asks.bind (asks_call ?_) fun _ => .done ()
  rintro written ⟨⟩
  rfl

theorem asks_update (placed : Record.place record = .ok ns) :
    (update record).Asks (Call.Within ns) := by
  unfold update
  rw [placed]
  refine Program.Asks.bind (asks_call ((Call.reads_findOne _ ns _).within ns)) fun found => ?_
  cases found with
  | none => exact .fail _
  | some document =>
    refine (Program.Asks.ofExcept _).bind fun existing => ?_
    refine ((asks_ensureAllUnused ns _ _).mono fun call counts => counts.reads.within ns).bind ?_
    refine fun _ => Program.Asks.bind (asks_call ?_) fun replaced => ?_
    · rintro written ⟨⟩
      rfl
    · split
      · exact .fail _
      · exact .done _

theorem asks_delete (placed : Record.place record = .ok ns) :
    (delete record).Asks (Call.Within ns) := by
  unfold delete
  rw [placed]
  refine Program.Asks.bind (asks_call ?_) fun deleted => ?_
  · rintro written ⟨⟩
    rfl
  · split
    · exact .fail _
    · exact .done ()

end Placed

end Records

end Syllabus
