/-
**What a run of a program yields.**

* `Program.Yields` — from states with one property, a run ends in states with another, or fails in
  states with a third; sequenced by `Yields.bind`;
* `Program.Preserves` — a property of states that a run keeps, whatever it ends with.
-/

import Syllabus.Program

namespace Syllabus.Program

variable {Q : Type} {A : Q → Type} {ε ε' α β σ : Type}
  (respond : (question : Q) → σ → A question × σ)

/-- From a state with `before`, a run returns a value in a state with `after` of it, or fails in a
state with `lost`. -/
def Yields (before : σ → Prop) (program : Program Q A ε α) (after : α → σ → Prop)
    (lost : σ → Prop) : Prop :=
  ∀ state, before state →
    match program.run respond state with
    | (.ok value, state) => after value state
    | (.error _, state) => lost state

/-- A run keeps the property, whatever it ends with. -/
def Preserves (Inv : σ → Prop) (program : Program Q A ε α) : Prop :=
  ∀ state, Inv state → Inv (program.run respond state).2

namespace Yields

variable {respond} {before before' lost lost' : σ → Prop} {after after' : α → σ → Prop}

theorem done {value : α} (holds : ∀ state, before state → after value state) :
    Yields respond before (.done value : Program Q A ε α) after lost :=
  holds

theorem fail {error : ε} (holds : ∀ state, before state → lost state) :
    Yields respond before (.fail error : Program Q A ε α) after lost :=
  holds

theorem ask {question : Q} {next : A question → Program Q A ε α} {M : A question → σ → Prop}
    (first : ∀ state, before state → M (respond question state).1 (respond question state).2)
    (rest : ∀ answer, Yields respond (M answer) (next answer) after lost) :
    Yields respond before (.ask question next) after lost :=
  fun state holds => rest _ _ (first state holds)

theorem bind {program : Program Q A ε α} {next : α → Program Q A ε β} {M : α → σ → Prop}
    {last : β → σ → Prop} (first : Yields respond before program M lost)
    (rest : ∀ value, Yields respond (M value) (next value) last lost) :
    Yields respond before (program >>= next) last lost := by
  intro state holds
  have middle := first state holds
  rw [run_bind]
  generalize program.run respond state = reached at middle ⊢
  obtain ⟨result, state⟩ := reached
  cases result with
  | ok value => exact rest value state middle
  | error error => exact middle

theorem mapError {program : Program Q A ε α} (yields : Yields respond before program after lost)
    (change : ε → ε') : Yields respond before (program.mapError change) after lost := by
  intro state holds
  have reached := yields state holds
  rw [run_mapError]
  generalize program.run respond state = ended at reached ⊢
  obtain ⟨result, state⟩ := ended
  cases result with
  | ok value => exact reached
  | error error => exact reached

theorem weaken {program : Program Q A ε α} (yields : Yields respond before program after lost)
    (stronger : ∀ state, before' state → before state)
    (weaker : ∀ value state, after value state → after' value state)
    (loses : ∀ state, lost state → lost' state) :
    Yields respond before' program after' lost' := by
  intro state holds
  have reached := yields state (stronger state holds)
  generalize program.run respond state = ended at reached ⊢
  obtain ⟨result, state⟩ := ended
  cases result with
  | ok value => exact weaker value state reached
  | error error => exact loses state reached

/-- What is known of the value, and not of the state, may be used for what follows. -/
theorem given {program : Program Q A ε α} {fact : Prop}
    (yields : fact → Yields respond before program after lost) :
    Yields respond (fun state => before state ∧ fact) program after lost :=
  fun state holds => yields holds.2 state holds.1

theorem preserves {Inv : σ → Prop} {program : Program Q A ε α}
    (yields : Yields respond Inv program (fun _ => Inv) Inv) : Preserves respond Inv program := by
  intro state holds
  have reached := yields state holds
  generalize program.run respond state = ended at reached ⊢
  obtain ⟨result, state⟩ := ended
  cases result <;> exact reached

end Yields

namespace Preserves

variable {respond} {Inv : σ → Prop}

theorem done (value : α) : Preserves respond Inv (.done value : Program Q A ε α) :=
  fun _ holds => holds

theorem fail (error : ε) : Preserves respond Inv (.fail error : Program Q A ε α) :=
  fun _ holds => holds

theorem ofExcept (value : Except ε α) :
    Preserves respond Inv (Program.ofExcept value : Program Q A ε α) := by
  cases value with
  | ok value => exact done value
  | error error => exact fail error

theorem bind {program : Program Q A ε α} {next : α → Program Q A ε β}
    (first : Preserves respond Inv program) (rest : ∀ value, Preserves respond Inv (next value)) :
    Preserves respond Inv (program >>= next) := by
  intro state holds
  have middle := first state holds
  rw [run_bind]
  generalize program.run respond state = reached at middle ⊢
  obtain ⟨result, state⟩ := reached
  cases result with
  | ok value => exact rest value state middle
  | error error => exact middle

theorem mapError {program : Program Q A ε α} (preserves : Preserves respond Inv program)
    (change : ε → ε') : Preserves respond Inv (program.mapError change) := by
  intro state holds
  rw [run_mapError]
  exact preserves state holds

theorem outcome {program : Program Q A ε α} (preserves : Preserves respond Inv program) :
    Preserves respond Inv (program.outcome : Program Q A ε' (Except ε α)) := by
  intro state holds
  rw [run_outcome]
  exact preserves state holds

end Preserves

end Syllabus.Program
