/-
**Between two calls.**

Clients create lessons and contents and update records at the same time, in any order of their calls.
Two of them may find the same id free, a child is stored before it is listed, and an update writes a
whole document back, with the list that it read. What holds all the same between any two calls is one
invariant, and each call of a client keeps it.

* `Store.Exact` — lists have no child twice, and have exactly those that are stored; `Store.Stray` — a
  child without a parent;
* `Crowd.Runs` — a client with its task and what is left of its program;
* **`Orderly`** — the invariant; `Orderly.gathered`, `Orderly.step` — clients begin with it, and every
  turn keeps it;
* `Orderly.mem_iff_of_ended` — once all have ended, no child is missing on a list.
-/

import Syllabus.Proofs.Standing

namespace Syllabus

/-! ### Exact lists -/

namespace Store

/-- The child is stored, and its parent is not. -/
def Stray (store : Store) (bond : Bond) : Prop :=
  store.Holds bond ∧ store.listAt bond.listing bond.course bond.parent = none

/-- The lists of the parents that are stored have no child twice, and have exactly the children that
are stored. -/
structure Exact (store : Store) : Prop where
  distinct : ∀ {kind : RecordKind} (listing : Listing kind) (c id : String) (ids : List String),
    store.listAt listing c id = some ids → ids.Nodup
  children : ∀ (bond : Bond) (ids : List String),
    store.listAt bond.listing bond.course bond.parent = some ids →
      (bond.child ∈ ids ↔ store.Holds bond)

end Store

/-! ### Clients and their tasks -/

namespace Crowd

variable {ε α : Type} (crowd : Crowd ε α)

/-- How many clients have returned or failed. -/
def ended : Nat :=
  crowd.programs.countP Program.hasEnded

/-- The client has this task, and this is left of its program. -/
structure Runs (tasks : List Authoring) (client : Nat) (task : Authoring)
    (left : StoreProgram ε α) : Prop where
  task : tasks[client]? = some task
  left : crowd.programs[client]? = some left

section Answered

variable {crowd} {client : Nat} {call : Call} {next : call.Answer → StoreProgram ε α}
  (asks : crowd.programs[client]? = some (.ask call next)) (reply : call.Answer × Store)

include asks

theorem ended_lt : crowd.ended < crowd.programs.length := by
  refine Nat.lt_of_le_of_ne List.countP_le_length fun all => ?_
  exact absurd (List.countP_eq_length.mp all _ (List.mem_of_getElem? asks)) nofun

/-- A client that has ended with the answer is one more. -/
theorem ended_answered : (crowd.answered client call next reply).ended =
    crowd.ended + if (next reply.1).hasEnded then 1 else 0 := by
  obtain ⟨inRange, here⟩ := List.getElem?_eq_some_iff.mp asks
  rw [ended, answered, List.countP_set inRange, here]
  rfl

/-- A client runs as before, unless it is the one that was answered. -/
theorem runs_answered {tasks : List Authoring} {other : Nat} {task : Authoring}
    {left : StoreProgram ε α}
    (runs : (crowd.answered client call next reply).Runs tasks other task left) :
    (other = client ∧ left = next reply.1 ∧ crowd.Runs tasks client task (.ask call next)) ∨
      (other ≠ client ∧ crowd.Runs tasks other task left) := by
  obtain ⟨doing, left⟩ := runs
  by_cases same : other = client
  · subst same
    rw [programs_answered_self _ _ _ asks] at left
    exact .inl ⟨rfl, (Option.some.inj left).symm, doing, asks⟩
  · rw [programs_answered_of_ne _ _ _ same] at left
    exact .inr ⟨same, doing, left⟩

end Answered

end Crowd

/-! ### Between two calls -/

/-- What holds of the store and the clients between two calls. -/
structure Orderly (start : Store) (tasks : List Authoring) (crowd : Crowd CurriculumError Unit) :
    Prop where
  regular : crowd.store.Regular
  clients : crowd.programs.length = tasks.length
  standings : ∀ client task left, crowd.Runs tasks client task left →
    Standing crowd.store crowd.ended task left
  distinct : ∀ {kind : RecordKind} (listing : Listing kind) (c id : String) (ids : List String),
    crowd.store.listAt listing c id = some ids → ids.Nodup
  stored : ∀ bond, crowd.store.Lists bond → crowd.store.Holds bond
  /-- A child that is not listed is a stray from the beginning, or will be listed by its client. -/
  cared : ∀ bond, crowd.store.Holds bond → crowd.store.Lists bond ∨ start.Stray bond ∨
    ∃ client task left, crowd.Runs tasks client task left ∧ task.creates? = some bond ∧
      Enrolls bond left
  kept : ∀ bond, start.Holds bond → crowd.store.Holds bond
  /-- What a client has stored was not there in the beginning. -/
  fresh : ∀ client task left bond, crowd.Runs tasks client task left → task.Born left bond →
    ¬ start.Holds bond
  barred : ∀ bond, start.Stray bond → ¬ crowd.store.Lists bond
  /-- No two clients have stored children under the same key. -/
  separate : ∀ client other task task' left left' bond bond',
    crowd.Runs tasks client task left → crowd.Runs tasks other task' left' →
    task.Born left bond → task'.Born left' bond' →
    bond.childNs = bond'.childNs → bond.child = bond'.child → client = other
  steady : ∀ event ∈ crowd.history, ∀ task, tasks[event.client]? = some task →
    task.creates? = none → ∀ {kind : RecordKind} (listing : Listing kind) (c id : String),
    event.after.listAt listing c id = event.before.listAt listing c id

namespace Orderly

variable {start : Store} {tasks : List Authoring}

theorem gathered (regular : start.Regular) (exact : start.Exact) :
    Orderly start tasks (Authoring.gathered tasks start) := by
  have begins : ∀ {client task left}, (Authoring.gathered tasks start).Runs tasks client task left →
      left = task.program := by
    rintro client task left ⟨doing, left⟩
    rw [Authoring.gathered, Crowd.gathered, List.getElem?_map, doing] at left
    exact (Option.some.inj left).symm
  have unborn : ∀ (task : Authoring) bond, ¬ task.Born task.program bond := by
    rintro task bond ⟨creates, born⟩
    rcases task.seeks_or_looks with ⟨_, _, _, _, ⟨error, failed⟩ | ⟨_, asks, _⟩⟩ | ⟨updates, _⟩
    · rw [failed] at born
      rcases born with ⟨_, impossible, _⟩ | impossible <;> cases impossible
    · rw [asks] at born
      rcases born with ⟨_, impossible, _⟩ | impossible <;> cases impossible
    · cases updates.symm.trans creates
  constructor
  case regular => exact regular
  case clients => exact List.length_map _
  case standings =>
    intro client task left runs
    rw [begins runs]
    rcases task.seeks_or_looks with ⟨bond, creates, record, newborn, seeks⟩ |
      ⟨updates, kind, someone, c, id, change, looks⟩
    · exact .seeking bond record _ creates newborn seeks
    · exact .looking kind c id change _ updates someone looks
  case distinct => exact exact.distinct
  case stored =>
    intro bond listed
    obtain ⟨ids, there, member⟩ := (start.lists_iff_listAt bond).mp listed
    exact (exact.children bond ids there).mp member
  case cared =>
    intro bond holds
    cases there : start.listAt bond.listing bond.course bond.parent with
    | none => exact .inr (.inl ⟨holds, there⟩)
    | some ids =>
      exact .inl ((start.lists_iff_listAt bond).mpr
        ⟨ids, there, (exact.children bond ids there).mpr holds⟩)
  case kept => exact fun _ => id
  case fresh =>
    intro _ task _ bond runs born
    rw [begins runs] at born
    exact (unborn task bond born).elim
  case barred =>
    intro bond ⟨_, nobody⟩ listed
    obtain ⟨_, there, _⟩ := (start.lists_iff_listAt bond).mp listed
    cases nobody.symm.trans there
  case separate =>
    intro _ _ task _ _ _ bond _ runs _ born
    rw [begins runs] at born
    exact (unborn task bond born).elim
  case steady => exact fun _ member => absurd member List.not_mem_nil

variable {crowd : Crowd CurriculumError Unit} (orderly : Orderly start tasks crowd)

include orderly

/-- A child that a client has stored is there. -/
theorem holds_of_born {client : Nat} {task : Authoring} {left : StoreProgram CurriculumError Unit}
    (runs : crowd.Runs tasks client task left) {bond : Bond} (born : task.Born left bond) :
    crowd.store.Holds bond := by
  have standing := orderly.standings client task left runs
  obtain ⟨creates, enrolls | rfl⟩ := born
  · exact (standing.of_enrolls creates enrolls).1
  · exact orderly.stored bond (standing.lists_of_done creates)

section Step

variable {client : Nat} {task : Authoring} {call : Call}
  {rest : call.Answer → StoreProgram CurriculumError Unit} {reply : call.Answer × Store}
  {added pushed : Option Bond}
  (advances : Advances task crowd.ended crowd.store reply.2 (.ask call rest) (rest reply.1) added pushed)

include advances

theorem kept_answered (bond : Bond) (held : start.Holds bond) : reply.2.Holds bond :=
  (advances.grows.holds bond).mpr (.inl (orderly.kept bond held))

variable (runs : crowd.Runs tasks client task (.ask call rest))

include runs

theorem standings_answered {other : Nat} {task' : Authoring} {left : StoreProgram CurriculumError Unit}
    (running : (crowd.answered client call rest reply).Runs tasks other task' left) :
    Standing reply.2 (crowd.answered client call rest reply).ended task' left := by
  have count := Crowd.ended_answered runs.left reply
  rcases Crowd.runs_answered runs.left reply running with ⟨_, rfl, same⟩ | ⟨different, before⟩
  · cases runs.task.symm.trans same.task
    refine advances.standing.grows (advances.grows.regular.alike.grows False) ?_ nofun nofun
    omega
  · refine (orderly.standings other task' left before).grows advances.grows ?_ ?_ ?_
    · omega
    · intro finished
      rw [if_pos finished] at count
      omega
    · -- Two clients would be about to list the same child.
      rintro bond creates enrolls rfl
      obtain ⟨mine, enrolling⟩ := (advances.enrolled bond).mp rfl
      exact different (orderly.separate other client task' task left _ bond bond before runs
        ⟨creates, .inl enrolls⟩ ⟨mine, .inl enrolling⟩ rfl rfl)

theorem distinct_answered {kind : RecordKind} (listing : Listing kind) (c id : String)
    (ids : List String) (there : reply.2.listAt listing c id = some ids) : ids.Nodup := by
  cases before : crowd.store.listAt listing c id with
  | none =>
    rcases advances.grows.parents listing c id before with nobody | ⟨empty, _⟩
    · cases there.symm.trans nobody
    · cases there.symm.trans empty
      exact .nil
  | some earlier =>
    have distinct := orderly.distinct listing c id earlier before
    rcases advances.grows.longer listing c id earlier before with same | ⟨bond, push, longer, listed⟩
    · cases there.symm.trans same
      exact distinct
    · cases there.symm.trans longer
      obtain ⟨creates, enrolls⟩ := (advances.enrolled bond).mp push
      have unlisted := ((orderly.standings client task _ runs).of_enrolls creates enrolls).2
      rw [List.nodup_append]
      refine ⟨distinct, by simp, ?_⟩
      rintro _ member _ last rfl
      rw [List.mem_singleton.mp last] at member
      exact unlisted (listed member)

theorem stored_answered (bond : Bond) (listed : reply.2.Lists bond) : reply.2.Holds bond := by
  refine (advances.grows.holds bond).mpr (.inl ?_)
  rcases (advances.grows.lists bond).mp listed with before | push
  · exact orderly.stored bond before
  · obtain ⟨creates, enrolls⟩ := (advances.enrolled bond).mp push
    exact ((orderly.standings client task _ runs).of_enrolls creates enrolls).1

theorem cared_answered (bond : Bond) (holds : reply.2.Holds bond) :
    reply.2.Lists bond ∨ start.Stray bond ∨ ∃ other task' left,
      (crowd.answered client call rest reply).Runs tasks other task' left ∧
        task'.creates? = some bond ∧ Enrolls bond left := by
  have mine : (crowd.answered client call rest reply).Runs tasks client task (rest reply.1) :=
    ⟨runs.task, Crowd.programs_answered_self _ _ _ runs.left⟩
  rcases (advances.grows.holds bond).mp holds with before | adopted
  · rcases orderly.cared bond before with listed | stray | ⟨other, task', left, waits, creates, enrolls⟩
    · exact .inl ((advances.grows.lists bond).mpr (.inl listed))
    · exact .inr (.inl stray)
    · by_cases same : other = client
      · subst same
        cases runs.task.symm.trans waits.task
        cases runs.left.symm.trans waits.left
        have pushes := (advances.enrolled bond).mpr ⟨creates, enrolls⟩
        exact .inl ((advances.grows.lists bond).mpr (.inr pushes))
      · have waiting := Crowd.programs_answered_of_ne crowd rest reply same
        exact .inr (.inr ⟨other, task', left, ⟨waits.task, waiting.trans waits.left⟩, creates, enrolls⟩)
  · obtain ⟨creates, enrolls, _⟩ := advances.adopted bond adopted
    exact .inr (.inr ⟨client, task, _, mine, creates, enrolls⟩)

theorem fresh_answered (other : Nat) (task' : Authoring) (left : StoreProgram CurriculumError Unit)
    (bond : Bond) (running : (crowd.answered client call rest reply).Runs tasks other task' left)
    (born : task'.Born left bond) : ¬ start.Holds bond := by
  rcases Crowd.runs_answered runs.left reply running with ⟨rfl, rfl, same⟩ | ⟨_, before⟩
  · cases runs.task.symm.trans same.task
    rcases advances.born bond born with before | adopted
    · exact orderly.fresh _ _ _ bond runs before
    · obtain ⟨_, _, free⟩ := advances.adopted bond adopted
      exact fun held => Store.not_holds_of_free free (orderly.kept bond held)
  · exact orderly.fresh other task' left bond before born

theorem barred_answered (bond : Bond) (stray : start.Stray bond) : ¬ reply.2.Lists bond := by
  intro listed
  rcases (advances.grows.lists bond).mp listed with before | push
  · exact orderly.barred bond stray before
  · obtain ⟨creates, enrolls⟩ := (advances.enrolled bond).mp push
    exact orderly.fresh client task _ bond runs ⟨creates, .inl enrolls⟩ stray.1

theorem separate_answered (one other : Nat) (task₁ task₂ : Authoring)
    (left₁ left₂ : StoreProgram CurriculumError Unit) (bond₁ bond₂ : Bond)
    (running₁ : (crowd.answered client call rest reply).Runs tasks one task₁ left₁)
    (running₂ : (crowd.answered client call rest reply).Runs tasks other task₂ left₂)
    (born₁ : task₁.Born left₁ bond₁) (born₂ : task₂.Born left₂ bond₂)
    (ns : bond₁.childNs = bond₂.childNs) (child : bond₁.child = bond₂.child) : one = other := by
  -- The child of the client that was answered was there before, or was put under a free key.
  have known : ∀ {mine theirs : Bond} {other : Nat} {task' : Authoring} {left},
      task.Born (rest reply.1) mine → crowd.Runs tasks other task' left → task'.Born left theirs →
      mine.childNs = theirs.childNs → mine.child = theirs.child → client = other := by
    intro mine theirs other task' left born running bears ns child
    rcases advances.born mine born with before | adopted
    · exact orderly.separate _ _ _ _ _ _ _ _ runs running before bears ns child
    · obtain ⟨_, _, free⟩ := advances.adopted mine adopted
      rw [ns, child] at free
      exact absurd (orderly.holds_of_born running bears) (Store.not_holds_of_free free)
  rcases Crowd.runs_answered runs.left reply running₁ with ⟨rfl, rfl, same₁⟩ | ⟨_, before₁⟩ <;>
    rcases Crowd.runs_answered runs.left reply running₂ with ⟨rfl, rfl, same₂⟩ | ⟨_, before₂⟩
  · rfl
  · cases runs.task.symm.trans same₁.task
    exact known born₁ before₂ born₂ ns child
  · cases runs.task.symm.trans same₂.task
    exact (known born₂ before₁ born₁ ns.symm child.symm).symm
  · exact orderly.separate _ _ _ _ _ _ _ _ before₁ before₂ born₁ born₂ ns child

theorem steady_answered (event : Event)
    (member : event ∈ (crowd.answered client call rest reply).history) (task' : Authoring) (doing : tasks[event.client]? = some task') (updates : task'.creates? = none)
    {kind : RecordKind} (listing : Listing kind) (c id : String) :
    event.after.listAt listing c id = event.before.listAt listing c id := by
  rcases List.mem_append.mp member with earlier | here
  · exact orderly.steady event earlier task' doing updates listing c id
  · cases List.mem_singleton.mp here
    cases runs.task.symm.trans doing
    exact advances.steady updates listing c id

end Step

/-- **Every turn keeps the order.** -/
theorem step (few : tasks.length ≤ 2 ^ 64) (turn : Turn) :
    Orderly start tasks (crowd.step turn) := by
  rcases crowd.step_cases turn with same | ⟨call, rest, asks, made⟩
  · rwa [same]
  have inRange := (List.getElem?_eq_some_iff.mp asks).1
  rw [orderly.clients] at inRange
  have runs : crowd.Runs tasks turn.client tasks[turn.client] (.ask call rest) :=
    ⟨List.getElem?_eq_getElem inRange, asks⟩
  have fewer : crowd.ended < 2 ^ 64 :=
    Nat.lt_of_lt_of_le (Crowd.ended_lt asks) (orderly.clients ▸ few)
  obtain ⟨added, pushed, advances⟩ := (orderly.standings _ _ _ runs).advances orderly.regular fewer
    orderly.stored turn.spare
  rw [made]
  exact {
    regular := advances.grows.regular
    clients := (crowd.length_programs_answered rest _).trans orderly.clients
    standings := fun _ _ _ => orderly.standings_answered advances runs
    distinct := orderly.distinct_answered advances runs
    stored := orderly.stored_answered advances runs
    cared := orderly.cared_answered advances runs
    kept := orderly.kept_answered advances
    fresh := orderly.fresh_answered advances runs
    barred := orderly.barred_answered advances runs
    separate := orderly.separate_answered advances runs
    steady := orderly.steady_answered advances runs }

/-- Once all clients have ended, a list has what is stored, other than strays. -/
theorem mem_iff_of_ended (finished : ∀ program ∈ crowd.programs, program.hasEnded = true) {bond : Bond}
    {ids : List String}
    (there : crowd.store.listAt bond.listing bond.course bond.parent = some ids) :
    bond.child ∈ ids ↔ crowd.store.Holds bond ∧ ¬ start.Stray bond := by
  have lists_iff : crowd.store.Lists bond ↔ bond.child ∈ ids := by
    rw [Store.lists_iff_listAt, there]
    simp
  rw [← lists_iff]
  constructor
  · exact fun listed => ⟨orderly.stored bond listed, fun stray => orderly.barred bond stray listed⟩
  · rintro ⟨holds, settled⟩
    rcases orderly.cared bond holds with listed | stray | ⟨_, _, _, runs, _, _, rfl, _⟩
    · exact listed
    · exact absurd stray settled
    · exact absurd (finished _ (List.mem_of_getElem? runs.left)) nofun

end Orderly

end Syllabus
