/-
**Programs that ask.**

A program asks questions one at a time and goes on with the answers; who answers, and what happens
between two questions, is left to its runner.

* `Program` — a value, a failure, or a question with what follows each answer;
* `Program.run` — a run against answers that may change a state;
* `Program.run_bind` — running one program after another; `Program.run_bind_eq_ok_iff` — to success.
-/

namespace Syllabus

/-- A program with questions `Q`, their answers `A`, failures `ε` and results `α`. -/
inductive Program (Q : Type) (A : Q → Type) (ε α : Type) where
  | done (value : α)
  | fail (error : ε)
  | ask (question : Q) (next : A question → Program Q A ε α)

namespace Program

variable {Q : Type} {A : Q → Type} {ε ε' α β σ : Type}

/-- One program, and another on its result. -/
protected def bind : Program Q A ε α → (α → Program Q A ε β) → Program Q A ε β
  | .done value, next => next value
  | .fail error, _ => .fail error
  | .ask question rest, next => .ask question fun answer => (rest answer).bind next

instance : Monad (Program Q A ε) where
  pure := .done
  bind := Program.bind

/-- The program that asks one question. -/
def question (question : Q) : Program Q A ε (A question) :=
  .ask question .done

/-- The program with this outcome. -/
def ofExcept : Except ε α → Program Q A ε α
  | .ok value => .done value
  | .error error => .fail error

/-- A program with its failures seen as others. -/
def mapError (change : ε → ε') : Program Q A ε α → Program Q A ε' α
  | .done value => .done value
  | .fail error => .fail (change error)
  | .ask question next => .ask question fun answer => (next answer).mapError change

/-- A program that ends with the outcome of another and never fails. -/
def outcome : Program Q A ε α → Program Q A ε' (Except ε α)
  | .done value => .done (.ok value)
  | .fail error => .done (.error error)
  | .ask question next => .ask question fun answer => (next answer).outcome

/-- Runs a program: each question gets its answer in the state at that time, and the answer may
change the state. -/
def run (respond : (question : Q) → σ → A question × σ) : Program Q A ε α → σ → Except ε α × σ
  | .done value, state => (.ok value, state)
  | .fail error, state => (.error error, state)
  | .ask question next, state =>
    let (answer, state) := respond question state
    (next answer).run respond state

/-! ### Runs of composed programs -/

variable (respond : (question : Q) → σ → A question × σ)

/-- **A run of one program after another is a run of the first, then of the second.** -/
theorem run_bind (first : Program Q A ε α) (next : α → Program Q A ε β) (state : σ) :
    (first >>= next).run respond state =
      match first.run respond state with
      | (.ok value, state) => (next value).run respond state
      | (.error error, state) => (.error error, state) := by
  show (first.bind next).run respond state = _
  induction first generalizing state with
  | done value => rfl
  | fail error => rfl
  | ask question rest ih =>
    simp only [Program.bind, run]
    exact ih (respond question state).1 (respond question state).2

/-- A run with failures seen as others. -/
theorem run_mapError (change : ε → ε') (program : Program Q A ε α) (state : σ) :
    (program.mapError change).run respond state =
      ((program.run respond state).1.mapError change, (program.run respond state).2) := by
  induction program generalizing state with
  | done value => rfl
  | fail error => rfl
  | ask question next ih =>
    simp only [mapError, run]
    exact ih (respond question state).1 (respond question state).2

/-- Failures that are seen as others, and these as others again. -/
theorem mapError_mapError {ε'' : Type} (program : Program Q A ε α) (change : ε → ε')
    (again : ε' → ε'') :
    (program.mapError change).mapError again = program.mapError (again ∘ change) := by
  induction program with
  | done value => rfl
  | fail error => rfl
  | ask question next ih => exact congrArg (Program.ask question) (funext ih)

/-- A run that ends with the outcome of another. -/
theorem run_outcome (program : Program Q A ε α) (state : σ) :
    (program.outcome : Program Q A ε' (Except ε α)).run respond state =
      (.ok (program.run respond state).1, (program.run respond state).2) := by
  induction program generalizing state with
  | done value => rfl
  | fail error => rfl
  | ask question next ih =>
    simp only [outcome, run]
    exact ih (respond question state).1 (respond question state).2

/-! ### Runs that succeed -/

variable {respond}

/-- One program after another succeeds if both do. -/
theorem run_bind_eq_ok_iff {first : Program Q A ε α} {next : α → Program Q A ε β}
    {state last : σ} {result : β} :
    (first >>= next).run respond state = (.ok result, last) ↔
      ∃ value middle, first.run respond state = (.ok value, middle) ∧
        (next value).run respond middle = (.ok result, last) := by
  rw [run_bind]
  generalize first.run respond state = ran
  obtain ⟨answer, middle⟩ := ran
  cases answer with
  | ok value =>
    constructor
    · exact fun ran => ⟨value, middle, rfl, ran⟩
    · rintro ⟨_, _, ⟨⟩, ran⟩
      exact ran
  | error error => simp

/-- Success is not seen otherwise. -/
theorem run_mapError_eq_ok_iff {change : ε → ε'} {program : Program Q A ε α} {state last : σ}
    {value : α} :
    (program.mapError change).run respond state = (.ok value, last) ↔
      program.run respond state = (.ok value, last) := by
  rw [run_mapError]
  generalize program.run respond state = ran
  obtain ⟨answer, left⟩ := ran
  cases answer with
  | ok answer => constructor <;> rintro ⟨⟩ <;> rfl
  | error error => constructor <;> rintro ⟨⟩

end Program

end Syllabus
