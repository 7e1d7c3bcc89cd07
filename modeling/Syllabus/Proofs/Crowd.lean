/-
**Clients that share a store.**

Each client has a program of store calls. One call is answered at a time, and whose it is at each
turn is up to the schedule, so a statement on all schedules is one on all interleavings.

* `Crowd` — the store, what is left of each program, and the calls that were answered;
* `Crowd.answered`, `Crowd.step`, `Crowd.run` — one call answered, one turn, and one after another;
* `Crowd.callsOf`, `Crowd.writers` — the calls of a client, and whose writes took effect, in order;
* **`Crowd.step_cases`** — all that a turn can do; `Crowd.run_induction` — what every turn keeps
  holds after every schedule;
* `Linked`, `Follows` — a history as a way from store to store, and the calls of a client as a way
  through its program; **`Crowd.Since.of_run`** — every crowd is both.
-/

import Syllabus.Proofs.Asks

namespace Syllabus

/-- The request was to write, and the answer says that it was done. -/
def Request.landed : (request : Request) → Except StoreError request.Answer → Bool
  | .insertOne _ _, .ok _ => true
  | .replaceOne _ _ _, .ok replaced => replaced != 0
  | .deleteOne _ _, .ok deleted => deleted != 0
  | .editMembership _ _ _ _ _, .ok _ => true
  | _, _ => false

/-- A call that was answered: whose it was, what it asked, the answer, and the stores before and
after. -/
structure Event where
  client : Nat
  call : Call
  answer : call.Answer
  before : Store
  after : Store

/-- The call was a write that took effect. -/
def Event.landed (event : Event) : Bool :=
  event.call.request.landed event.answer

/-- The program has returned a value. -/
def Program.isDone {Q : Type} {A : Q → Type} {ε α : Type} : Program Q A ε α → Bool
  | .done _ => true
  | _ => false

/-- Clients at one store: what is left of their programs, and the calls answered so far. -/
structure Crowd (ε α : Type) where
  store : Store
  programs : List (StoreProgram ε α)
  history : List Event

/-- Whose call is answered, and the spare key for a document that comes without one. -/
structure Turn where
  client : Nat
  spare : ObjectId

namespace Crowd

variable {ε α : Type}

/-- Clients that have not made a call yet. -/
def gathered (store : Store) (programs : List (StoreProgram ε α)) : Crowd ε α :=
  ⟨store, programs, []⟩

/-- The clients after one of them was answered a call. -/
def answered (crowd : Crowd ε α) (client : Nat) (call : Call)
    (next : call.Answer → StoreProgram ε α) (reply : call.Answer × Store) : Crowd ε α where
  store := reply.2
  programs := crowd.programs.set client (next reply.1)
  history := crowd.history ++ [⟨client, call, reply.1, crowd.store, reply.2⟩]

/-- One turn: the client's next call is answered, if it still has one. -/
def step (crowd : Crowd ε α) (turn : Turn) : Crowd ε α :=
  match crowd.programs[turn.client]? with
  | some (.ask call next) =>
    crowd.answered turn.client call next (crowd.store.respond turn.spare call)
  | _ => crowd

/-- One turn after another. -/
def run (crowd : Crowd ε α) (schedule : List Turn) : Crowd ε α :=
  schedule.foldl step crowd

/-- The calls of a client, in order. -/
def callsOf (crowd : Crowd ε α) (client : Nat) : List Event :=
  crowd.history.filter (·.client == client)

/-- The clients whose writes took effect, in the order of these writes. -/
def writers (crowd : Crowd ε α) : List Nat :=
  (crowd.history.filter Event.landed).map Event.client

/-- The client has returned this value. -/
def Returned (crowd : Crowd ε α) (client : Nat) (value : α) : Prop :=
  crowd.programs[client]? = some (.done value)

/-- The client has failed with this error. -/
def Failed (crowd : Crowd ε α) (client : Nat) (error : ε) : Prop :=
  crowd.programs[client]? = some (.fail error)

/-- Every client has returned, and none has failed. -/
def Finished (crowd : Crowd ε α) : Prop :=
  ∀ program ∈ crowd.programs, program.isDone = true

instance (crowd : Crowd ε α) : Decidable crowd.Finished :=
  inferInstanceAs (Decidable (∀ program ∈ crowd.programs, program.isDone = true))

/-- **All that a turn can do**: answer one call of one client, or nothing. -/
theorem step_cases (crowd : Crowd ε α) (turn : Turn) :
    crowd.step turn = crowd ∨
    ∃ call next, crowd.programs[turn.client]? = some (.ask call next) ∧
      crowd.step turn =
        crowd.answered turn.client call next (crowd.store.respond turn.spare call) := by
  unfold step
  split
  · next call next asks => exact .inr ⟨call, next, asks, rfl⟩
  · exact .inl rfl

theorem step_of_asks {crowd : Crowd ε α} {client : Nat} {call : Call}
    {next : call.Answer → StoreProgram ε α} (asks : crowd.programs[client]? = some (.ask call next))
    (spare : ObjectId) : crowd.step ⟨client, spare⟩ =
      crowd.answered client call next (crowd.store.respond spare call) := by
  simp only [step, asks]

/-- **What every turn keeps holds after every schedule.** -/
theorem run_induction {P : Crowd ε α → Prop} {crowd : Crowd ε α} (start : P crowd)
    (keeps : ∀ crowd turn, P crowd → P (crowd.step turn)) (schedule : List Turn) :
    P (crowd.run schedule) := by
  induction schedule generalizing crowd with
  | nil => exact start
  | cons turn schedule ih => exact ih (keeps crowd turn start)

/-! ### After one more answer -/

section Answered

variable (crowd : Crowd ε α) {client : Nat} {call : Call}
  (next : call.Answer → StoreProgram ε α) (reply : call.Answer × Store)

@[simp]
theorem store_answered : (crowd.answered client call next reply).store = reply.2 := rfl

@[simp]
theorem history_answered :
    (crowd.answered client call next reply).history =
      crowd.history ++ [⟨client, call, reply.1, crowd.store, reply.2⟩] := rfl

@[simp]
theorem length_programs_answered :
    (crowd.answered client call next reply).programs.length = crowd.programs.length :=
  List.length_set

theorem programs_answered_self {program : StoreProgram ε α}
    (there : crowd.programs[client]? = some program) :
    (crowd.answered client call next reply).programs[client]? = some (next reply.1) :=
  List.getElem?_set_self (List.getElem?_eq_some_iff.mp there).1

theorem programs_answered_of_ne {other : Nat} (different : other ≠ client) :
    (crowd.answered client call next reply).programs[other]? = crowd.programs[other]? :=
  List.getElem?_set_ne different.symm

@[simp]
theorem callsOf_answered_self :
    (crowd.answered client call next reply).callsOf client =
      crowd.callsOf client ++ [⟨client, call, reply.1, crowd.store, reply.2⟩] := by
  simp [callsOf]

theorem callsOf_answered_of_ne {other : Nat} (different : other ≠ client) :
    (crowd.answered client call next reply).callsOf other = crowd.callsOf other := by
  simp [callsOf, different.symm]

theorem writers_answered_of_landed (landed : call.request.landed reply.1 = true) :
    (crowd.answered client call next reply).writers = crowd.writers ++ [client] := by
  simp [writers, Event.landed, landed]

theorem writers_answered_of_not_landed (unwritten : call.request.landed reply.1 = false) :
    (crowd.answered client call next reply).writers = crowd.writers := by
  simp [writers, Event.landed, unwritten]

end Answered

/-- The calls answered so far stay on record. -/
theorem history_isPrefix_step (crowd : Crowd ε α) (turn : Turn) :
    crowd.history <+: (crowd.step turn).history := by
  rcases step_cases crowd turn with same | ⟨call, next, _, made⟩
  · simp [same]
  · rw [made]
    exact List.prefix_append _ _

theorem length_writers_le_step (crowd : Crowd ε α) (turn : Turn) :
    crowd.writers.length ≤ (crowd.step turn).writers.length := by
  obtain ⟨more, longer⟩ := history_isPrefix_step crowd turn
  simp only [writers, List.length_map, ← longer, List.filter_append, List.length_append]
  omega

/-- A turn answers at most one write. -/
theorem length_writers_step_le (crowd : Crowd ε α) (turn : Turn) :
    (crowd.step turn).writers.length ≤ crowd.writers.length + 1 := by
  rcases step_cases crowd turn with same | ⟨call, next, _, made⟩
  · rw [same]
    omega
  · rw [made]
    cases landed : call.request.landed (crowd.store.respond turn.spare call).1 with
    | false =>
      rw [writers_answered_of_not_landed crowd next _ landed]
      omega
    | true =>
      rw [writers_answered_of_landed crowd next _ landed, List.length_append]
      exact Nat.le_refl _

/-- There are no more writes than turns. -/
theorem length_writers_run_le (crowd : Crowd ε α) (schedule : List Turn) :
    (crowd.run schedule).writers.length ≤ crowd.writers.length + schedule.length := by
  induction schedule generalizing crowd with
  | nil => exact Nat.le_refl _
  | cons turn schedule ih =>
    have one := length_writers_step_le crowd turn
    have rest := ih (crowd.step turn)
    show ((crowd.step turn).run schedule).writers.length ≤ _
    rw [List.length_cons]
    omega

end Crowd

/-! ### Histories -/

/-- The store answered the call as it does. -/
def Event.Genuine (event : Event) : Prop :=
  ∃ spare, event.before.respond spare event.call = (event.answer, event.after)

/-- The answers lead from one store to another, each from where the one before it ended. -/
inductive Linked : Store → List Event → Store → Prop
  | nil (store : Store) : Linked store [] store
  | cons (event : Event) (rest : List Event) (last : Store) :
      event.Genuine → Linked event.after rest last → Linked event.before (event :: rest) last

namespace Linked

variable {first last : Store}

theorem append {front back : List Event} {middle : Store} (ahead : Linked first front middle)
    (behind : Linked middle back last) : Linked first (front ++ back) last := by
  induction ahead with
  | nil store => exact behind
  | cons event rest middle genuine _ ih => exact .cons event _ last genuine (ih behind)

/-- Where a history is cut, there is a store in between. -/
theorem split {front back : List Event} (linked : Linked first (front ++ back) last) :
    ∃ middle, Linked first front middle ∧ Linked middle back last := by
  induction front generalizing first with
  | nil => exact ⟨first, .nil first, linked⟩
  | cons event front ih =>
    cases linked with
    | cons _ _ _ genuine rest =>
      obtain ⟨middle, ahead, behind⟩ := ih rest
      exact ⟨middle, .cons event front middle genuine ahead, behind⟩

end Linked

/-- The calls and answers take a program from its start to what is left of it. -/
inductive Follows {ε α : Type} : StoreProgram ε α → List Event → StoreProgram ε α → Prop
  | nil (program : StoreProgram ε α) : Follows program [] program
  | cons (client : Nat) (call : Call) (answer : call.Answer) (before after : Store)
      (next : call.Answer → StoreProgram ε α) (rest : List Event) (last : StoreProgram ε α) :
      Follows (next answer) rest last →
      Follows (.ask call next) (⟨client, call, answer, before, after⟩ :: rest) last

namespace Follows

variable {ε α : Type} {first last : StoreProgram ε α}

theorem append {front back : List Event} {middle : StoreProgram ε α}
    (ahead : Follows first front middle) (behind : Follows middle back last) :
    Follows first (front ++ back) last := by
  induction ahead with
  | nil program => exact behind
  | cons client call answer before after next rest middle _ ih =>
    exact .cons client call answer before after next _ last (ih behind)

/-- The calls of a program are what it can ask. -/
theorem asks {P : Call → Prop} {events : List Event} (follows : Follows first events last)
    (start : first.Asks P) : last.Asks P ∧ ∀ event ∈ events, P event.call := by
  induction follows with
  | nil program =>
    refine ⟨start, ?_⟩
    intro event member
    cases member
  | cons client call answer before after next rest last _ ih =>
    cases start with
    | ask _ _ here further =>
      obtain ⟨left, others⟩ := ih (further answer)
      exact ⟨left, List.forall_mem_cons.mpr ⟨here, others⟩⟩

end Follows

namespace Crowd

variable {ε α : Type}

/-- What links a crowd to its beginning: its history leads to its store, and every client's calls to
what is left of its program. -/
structure Since (store : Store) (programs : List (StoreProgram ε α)) (crowd : Crowd ε α) : Prop where
  linked : Linked store crowd.history crowd.store
  known : ∀ event ∈ crowd.history, event.client < programs.length
  clients : crowd.programs.length = programs.length
  follows : ∀ client program, programs[client]? = some program →
    ∃ left, crowd.programs[client]? = some left ∧ Follows program (crowd.callsOf client) left

namespace Since

variable {store : Store} {programs : List (StoreProgram ε α)} {crowd : Crowd ε α}

theorem step (since : Since store programs crowd) (turn : Turn) :
    Since store programs (crowd.step turn) := by
  rcases step_cases crowd turn with same | ⟨call, next, asks, made⟩
  · rw [same]
    exact since
  rw [made]
  have inRange := (List.getElem?_eq_some_iff.mp asks).1
  rw [since.clients] at inRange
  exact {
    linked := by
      refine since.linked.append ?_
      exact .cons ⟨turn.client, call, _, crowd.store, _⟩ [] _ ⟨turn.spare, rfl⟩ (.nil _)
    known := by
      intro event member
      rcases List.mem_append.mp member with earlier | here
      · exact since.known event earlier
      · rw [List.mem_singleton.mp here]
        exact inRange
    clients := (crowd.length_programs_answered next _).trans since.clients
    follows := by
      intro client program start
      obtain ⟨left, running, follows⟩ := since.follows client program start
      by_cases same : client = turn.client
      · subst same
        rw [programs_answered_self _ _ _ asks, callsOf_answered_self]
        rw [running] at asks
        cases asks
        exact ⟨_, rfl, follows.append (.cons turn.client call _ _ _ next [] _ (.nil _))⟩
      · rw [programs_answered_of_ne _ _ _ same, callsOf_answered_of_ne _ _ _ same]
        exact ⟨left, running, follows⟩ }

/-- **Every crowd is linked to its beginning.** -/
theorem of_run (store : Store) (programs : List (StoreProgram ε α)) (schedule : List Turn) :
    Since store programs ((gathered store programs).run schedule) := by
  refine run_induction ?_ (fun crowd turn since => since.step turn) schedule
  exact {
    linked := .nil store
    known := by
      intro event member
      cases member
    clients := rfl
    follows := fun client program start => ⟨program, start, .nil program⟩ }

/-- All calls are what the programs can ask. -/
theorem asks (since : Since store programs crowd) {P : Call → Prop}
    (all : ∀ program ∈ programs, program.Asks P) : ∀ event ∈ crowd.history, P event.call := by
  intro event member
  have start := List.getElem?_eq_getElem (since.known event member)
  obtain ⟨left, _, follows⟩ := since.follows event.client _ start
  have mine : event ∈ crowd.callsOf event.client := List.mem_filter.mpr ⟨member, by simp⟩
  exact (follows.asks (all _ (List.getElem_mem _))).2 event mine

end Since

end Crowd

end Syllabus
