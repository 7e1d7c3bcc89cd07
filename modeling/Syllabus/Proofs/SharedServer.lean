/-
**Clients that edit one list on a server.**

Each client adds a child to the list of a document or removes one, by one command or two, and commands of
the others come in between. An addition first tries to set an unset list; another client may do so before
it, or remove from the list, or add to it before the second command is sent.

* `Mongo.Clients`, `Clients.run` — clients at a server, which serves one command at a turn;
* `ListEdit.lands`, `Clients.effects` — the command by which an edit takes effect, and the edits that have
  taken effect, in the order of these commands;
* `Progress`, `Progress.advances` — how far a client has come, and what its next command does;
* `InTurn`, `InTurn.step` — the server is where the effective edits alone take it, one after another;
* **`edits_take_effect_in_turn`** — all of this after every schedule.
-/

import Syllabus.Proofs.ListEdits

namespace Syllabus

namespace Mongo

/-! ### Clients at a server -/

/-- A command that was served: whose it was, and what came back. -/
structure Served where
  client : Nat
  command : Command
  reply : Reply

/-- Clients at one server: what is left of their programs, and the commands served so far. -/
structure Clients where
  store : Store
  programs : List (Exchange StoreError Unit)
  history : List Served

namespace Clients

/-- Clients that have not sent a command yet. -/
def gathered (store : Store) (programs : List (Exchange StoreError Unit)) : Clients :=
  ⟨store, programs, []⟩

/-- The clients after a command of one of them was served. -/
def served (clients : Clients) (client : Nat) (command : Command)
    (next : Reply → Exchange StoreError Unit) (replied : Reply × Store) : Clients where
  store := replied.2
  programs := clients.programs.set client (next replied.1)
  history := clients.history ++ [⟨client, command, replied.1⟩]

/-- One turn: the client's next command is served, if it still has one. -/
def step (clients : Clients) (client : Nat) : Clients :=
  match clients.programs[client]? with
  | some (.ask command next) => clients.served client command next (serve command clients.store)
  | _ => clients

/-- One turn after another. -/
def run (clients : Clients) (schedule : List Nat) : Clients :=
  schedule.foldl step clients

end Clients

/-- The edit of a list as a client of the server makes it. -/
def editProgram (ns : Namespace) (id field : String) (edit : ListEdit) : Exchange StoreError Unit :=
  editMembership ns id edit.membership field (.string edit.child)

/-- The server after edits that are made one after another, each to its end. -/
def oneByOne (ns : Namespace) (id field : String) (store : Store) (edits : List ListEdit) : Store :=
  edits.foldl (fun store edit => ((editProgram ns id field edit).run serve store).2) store

/-- The command is the one by which the edit takes effect: for an addition the change that found the
document, for a removal its change, whatever that found. -/
def lands (edit : ListEdit) (command : Command) (reply : Reply) : Bool :=
  match edit.membership, command, reply with
  | .push, .update _ _ _, .counted found => 0 < found
  | .pull, .update _ _ _, _ => true
  | _, _, _ => false

/-- The edit that takes effect by a command, with its client. -/
def Served.effect? (edits : List ListEdit) (served : Served) : Option (Nat × ListEdit) :=
  (edits[served.client]?.filter fun edit => lands edit served.command served.reply).map
    (served.client, ·)

/-- The edits that have taken effect, with their clients, in the order of the commands by which they
did. -/
def Clients.effects (edits : List ListEdit) (clients : Clients) : List (Nat × ListEdit) :=
  clients.history.filterMap (Served.effect? edits)

namespace Clients

/-- The clients whose edits have taken effect, in this order. -/
def order (edits : List ListEdit) (clients : Clients) : List Nat :=
  (clients.effects edits).map Prod.fst

/-- The edits that have taken effect, in this order. -/
def landed (edits : List ListEdit) (clients : Clients) : List ListEdit :=
  (clients.effects edits).map Prod.snd

variable {edits : List ListEdit} {client : Nat} {edit : ListEdit} {command : Command} {reply : Reply}

theorem step_of_asks {clients : Clients} {next : Reply → Exchange StoreError Unit}
    (asks : clients.programs[client]? = some (.ask command next)) :
    clients.step client = clients.served client command next (serve command clients.store) := by
  simp only [step, asks]

theorem step_of_done {clients : Clients} (done : clients.programs[client]? = some (.done ())) :
    clients.step client = clients := by
  simp only [step, done]

theorem step_of_none {clients : Clients} (absent : clients.programs[client]? = none) :
    clients.step client = clients := by
  simp only [step, absent]

theorem programs_served_self (clients : Clients) {program : Exchange StoreError Unit}
    (there : clients.programs[client]? = some program) (next : Reply → Exchange StoreError Unit)
    (replied : Reply × Store) :
    (clients.served client command next replied).programs[client]? = some (next replied.1) :=
  List.getElem?_set_self (List.getElem?_eq_some_iff.mp there).1

theorem programs_served_of_ne (clients : Clients) {other : Nat} (different : other ≠ client)
    (next : Reply → Exchange StoreError Unit) (replied : Reply × Store) :
    (clients.served client command next replied).programs[other]? = clients.programs[other]? :=
  List.getElem?_set_ne different.symm

theorem effects_served_of_lands (clients : Clients) (there : edits[client]? = some edit)
    (landed : lands edit command reply = true) (next : Reply → Exchange StoreError Unit)
    (store : Store) : (clients.served client command next (reply, store)).effects edits =
      clients.effects edits ++ [(client, edit)] := by
  have effect : Served.effect? edits ⟨client, command, reply⟩ = some (client, edit) := by
    simp [Served.effect?, there, landed]
  simp [effects, served, effect]

theorem effects_served_of_not_lands (clients : Clients) (there : edits[client]? = some edit)
    (passed : lands edit command reply = false) (next : Reply → Exchange StoreError Unit)
    (store : Store) : (clients.served client command next (reply, store)).effects edits =
      clients.effects edits := by
  have effect : Served.effect? edits ⟨client, command, reply⟩ = none := by
    simp [Served.effect?, there, passed]
  simp [effects, served, effect]

theorem getElem?_of_mem_effects {clients : Clients} (member : (client, edit) ∈ clients.effects edits) :
    edits[client]? = some edit := by
  obtain ⟨served, _, made⟩ := List.mem_filterMap.mp member
  obtain ⟨found, kept, same⟩ := Option.map_eq_some_iff.mp made
  cases same
  exact (Option.filter_eq_some_iff.mp kept).1

end Clients

/-! ### Single commands -/

section Edit

variable {store : Store} {ns : Namespace} {id field : String} {document : Document}
  {ids : List String} (plain : field ≠ idKey ∧ field ≠ versionKey)
  (only : store.Only ns id document) (lists : document.Lists field ids)
  (counts : document.CountsVersion)

include plain only lists counts

/-- The first command of an addition takes effect on an unset list, and misses another. -/
theorem serve_initialising (child : String) :
    serve (initialising ns id field child) store = (.counted 1, store.update ns
        (Store.changeFirst (.byId id) fun _ => ListEdit.applied field document ⟨.push, child⟩)) ∨
      serve (initialising ns id field child) store = (.counted 0, store) ∧
        ∃ items, document.get? field = some (.array items) := by
  rcases lists with held | ⟨rfl, unset⟩
  · have some : valueMatches (document.get? field) .null = false := by
      simp [held, valueMatches, Bson.same]
    exact .inr ⟨serve_initialising_of_not_null plain child only some, _, held⟩
  · have null : valueMatches (document.get? field) .null = true := by
      rcases unset with absent | null
      · rw [absent]
        rfl
      · rw [null]
        rfl
    rw [serve_initialising_of_null plain child only counts null,
      ListEdit.applied_eq (.inr ⟨rfl, unset⟩), if_pos (.inl rfl)]
    exact .inl rfl

/-- The second one takes effect on what is a list by then. -/
theorem serve_appending_of_lists {items : List Bson}
    (held : document.get? field = some (.array items)) (child : String) :
    serve (appending ns id field child) store = (.counted 1, store.update ns
      (Store.changeFirst (.byId id) fun _ => ListEdit.applied field document ⟨.push, child⟩)) := by
  have same : items = ids.map .string := by
    rcases lists with listed | ⟨_, absent | null⟩
    · cases held.symm.trans listed
      rfl
    · cases held.symm.trans absent
    · cases held.symm.trans null
  rw [serve_appending plain child only counts held, ListEdit.applied_eq lists, if_pos (.inl rfl), same]
  simp [ListEdit.edited, Membership.edited]

/-- The change of a removal takes the child off the list, or misses a list without it. -/
theorem serve_removing (child : String) :
    ∃ found, serve (removing ns id field child) store = (.counted found, store.update ns
      (Store.changeFirst (.byId id) fun _ => ListEdit.applied field document ⟨.pull, child⟩)) := by
  by_cases listed : child ∈ ids
  · have held : document.get? field = some (.array (ids.map .string)) := by
      rcases lists with held | ⟨rfl, _⟩
      · exact held
      · cases listed
    refine ⟨1, ?_⟩
    rw [serve_removing_of_listed plain child only counts held (by simpa using listed),
      ListEdit.applied_eq lists, if_pos (.inr listed), Listing.filter_items]
    rfl
  · have unlisted : valueMatches (document.get? field) (.string child) = false := by
      rcases lists with held | ⟨rfl, absent | null⟩
      · have apart : ∀ id ∈ ids, ¬ id = child := fun id member same => listed (same ▸ member)
        simpa [held, valueMatches, Bson.same] using apart
      · rw [absent]
        rfl
      · rw [null]
        rfl
    have still : ¬ ListEdit.Changes ⟨.pull, child⟩ ids := by simpa [ListEdit.Changes] using listed
    refine ⟨0, ?_⟩
    rw [serve_removing_of_unlisted plain child only unlisted, ListEdit.applied_eq lists,
      if_neg still, only.update_self]

omit lists counts in
/-- The one document after an edit. -/
theorem only_applied (edit : ListEdit) :
    (store.update ns (Store.changeFirst (.byId id) fun _ =>
      ListEdit.applied field document edit)).Only ns id (ListEdit.applied field document edit) := by
  have answers := (ListEdit.accepts_applied plain.1 edit id).trans only.answers
  exact ((Store.OneApart.of_only only).update answers).only

/-- An edit that is made without a break succeeds, and does what it does to the document. -/
theorem run_editProgram (edit : ListEdit) :
    (editProgram ns id field edit).run serve store = (.ok (), store.update ns
      (Store.changeFirst (.byId id) fun _ => ListEdit.applied field document edit)) := by
  obtain ⟨membership, child⟩ := edit
  cases membership with
  | push =>
    rw [editProgram, editMembership, run_push, run_send]
    rcases serve_initialising plain only lists counts child with served | ⟨missed, items, held⟩
    · rw [served]
      rfl
    · rw [missed]
      simp only [Nat.lt_irrefl, if_false]
      rw [Program.run_bind, run_sendListChange,
        serve_appending_of_lists plain only lists counts held child]
      rfl
  | pull =>
    obtain ⟨removed, served⟩ := serve_removing plain only lists counts child
    obtain ⟨found, some, looked⟩ := serve_aggregate (only_applied plain only ⟨.pull, child⟩)
    rw [editProgram, editMembership, run_pull, run_sendListChange, served]
    cases removed with
    | succ more => rfl
    | zero =>
      simp only [Nat.lt_irrefl, if_false]
      rw [Program.run_bind, run_send, looked]
      simp only [run_ensureFound, some, if_false]

end Edit

/-! ### How far a client has come -/

section Programs

variable (ns : Namespace) (id field child : String)

/-- The second part of an addition that missed an unset list. -/
abbrev appendProgram : Exchange StoreError Unit :=
  sendListChange ns id field (byId id) (versionedChange pushOperator field (.string child)) >>=
    ensureFound ns id

/-- The second part of a removal that missed a list with the child. -/
abbrev lookProgram : Exchange StoreError Unit :=
  send (.aggregate ns (byId id)) >>= ensureFound ns id

theorem editProgram_push_eq_ask : ∃ next,
    editProgram ns id field ⟨.push, child⟩ = .ask (initialising ns id field child) next ∧
      next (.counted 0) = appendProgram ns id field child ∧
      ∀ more, next (.counted (more + 1)) = .done () :=
  ⟨_, rfl, rfl, fun _ => rfl⟩

theorem editProgram_pull_eq_ask : ∃ next,
    editProgram ns id field ⟨.pull, child⟩ = .ask (removing ns id field child) next ∧
      next (.counted 0) = lookProgram ns id ∧ ∀ more, next (.counted (more + 1)) = .done () :=
  ⟨_, rfl, rfl, fun _ => rfl⟩

theorem appendProgram_eq_ask : ∃ next,
    appendProgram ns id field child = .ask (appending ns id field child) next ∧
      ∀ more, next (.counted (more + 1)) = .done () :=
  ⟨_, rfl, fun _ => rfl⟩

theorem lookProgram_eq_ask : ∃ next,
    lookProgram ns id = .ask (.aggregate ns (byId id)) next ∧
      ∀ more, next (.counted (more + 1)) = .done () :=
  ⟨_, rfl, fun _ => rfl⟩

theorem editProgram_eq_ask (edit : ListEdit) :
    ∃ command next, editProgram ns id field edit = .ask command next := by
  obtain ⟨membership, child⟩ := edit
  cases membership <;> exact ⟨_, _, rfl⟩

end Programs

/-- How far a client with an edit has come, by its turns so far and whether its edit has taken effect, and
what it may rely on: what an addition has found to be a list stays one. -/
inductive Progress (ns : Namespace) (id field : String) (edit : ListEdit) (document : Document) :
    Nat → Bool → Exchange StoreError Unit → Prop
  | waiting : Progress ns id field edit document 0 false (editProgram ns id field edit)
  | missed (items : List Bson) : edit.membership = .push →
      document.get? field = some (.array items) →
      Progress ns id field edit document 1 false (appendProgram ns id field edit.child)
  | looking : Progress ns id field edit document 1 true (lookProgram ns id)
  | returned (turns : Nat) : Progress ns id field edit document (turns + 1) true (.done ())

namespace Progress

variable {store : Store} {ns : Namespace} {id field : String} {document : Document}
  {ids : List String} {edit : ListEdit} {turns : Nat} {landed : Bool}
  {program : Exchange StoreError Unit}

/-- Two turns are enough. -/
theorem eq_done (progress : Progress ns id field edit document turns landed program)
    (enough : 2 ≤ turns) : program = .done () := by
  cases progress with
  | waiting | missed | looking => omega
  | returned => rfl

theorem ne_fail (progress : Progress ns id field edit document turns landed program)
    (error : StoreError) : program ≠ .fail error := by
  rintro rfl
  generalize same : (Program.fail error : Exchange StoreError Unit) = program at progress
  cases progress with
  | waiting =>
    obtain ⟨command, next, asks⟩ := editProgram_eq_ask ns id field edit
    cases same.trans asks
  | missed | looking | returned => cases same

theorem landed_of_done (progress : Progress ns id field edit document turns landed (.done ())) :
    landed = true := by
  generalize same : (Program.done () : Exchange StoreError Unit) = program at progress
  cases progress with
  | waiting =>
    obtain ⟨command, next, asks⟩ := editProgram_eq_ask ns id field edit
    cases same.trans asks
  | missed => cases same
  | looking | returned => rfl

/-- What others do to the list leaves a client where it is. -/
theorem of_applied (progress : Progress ns id field edit document turns landed program)
    (apart : field ≠ versionKey) (other : ListEdit) :
    Progress ns id field edit (ListEdit.applied field document other) turns landed program := by
  cases progress with
  | waiting => exact .waiting
  | missed items push held =>
    obtain ⟨items, held⟩ := ListEdit.get?_applied_of_array apart held other
    exact .missed items push held
  | looking => exact .looking
  | returned turns => exact .returned turns

/-- **What the next command of a client does.** The client has returned, its edit takes effect now, or the
command leaves the server as it is. -/
theorem advances (progress : Progress ns id field edit document turns landed program)
    (plain : field ≠ idKey ∧ field ≠ versionKey) (only : store.Only ns id document)
    (lists : document.Lists field ids) (counts : document.CountsVersion) :
    program = .done () ∨
    ∃ command next reply, program = .ask command next ∧
      (lands edit command reply = true ∧ landed = false ∧
          serve command store = (reply, store.update ns (Store.changeFirst (.byId id) fun _ =>
            ListEdit.applied field document edit)) ∧
          Progress ns id field edit (ListEdit.applied field document edit) (turns + 1) true
            (next reply) ∨
        lands edit command reply = false ∧ serve command store = (reply, store) ∧
          Progress ns id field edit document (turns + 1) landed (next reply)) := by
  cases progress with
  | waiting =>
    obtain ⟨membership, child⟩ := edit
    cases membership with
    | push =>
      obtain ⟨next, asks, afterMiss, afterHit⟩ := editProgram_push_eq_ask ns id field child
      rcases serve_initialising plain only lists counts child with served | ⟨missed, items, held⟩
      · refine .inr ⟨_, next, .counted 1, asks, .inl ⟨rfl, rfl, served, ?_⟩⟩
        rw [afterHit 0]
        exact .returned 0
      · refine .inr ⟨_, next, .counted 0, asks, .inr ⟨rfl, missed, ?_⟩⟩
        rw [afterMiss]
        exact .missed items rfl held
    | pull =>
      obtain ⟨next, asks, afterMiss, afterHit⟩ := editProgram_pull_eq_ask ns id field child
      obtain ⟨removed, served⟩ := serve_removing plain only lists counts child
      refine .inr ⟨_, next, .counted removed, asks, .inl ⟨rfl, rfl, served, ?_⟩⟩
      cases removed with
      | zero =>
        rw [afterMiss]
        exact .looking
      | succ more =>
        rw [afterHit more]
        exact .returned 0
  | missed items push held =>
    obtain ⟨membership, child⟩ := edit
    cases push
    obtain ⟨next, asks, afterHit⟩ := appendProgram_eq_ask ns id field child
    have served := serve_appending_of_lists plain only lists counts held child
    refine .inr ⟨_, next, .counted 1, asks, .inl ⟨rfl, rfl, served, ?_⟩⟩
    rw [afterHit 0]
    exact .returned 1
  | looking =>
    obtain ⟨next, asks, afterHit⟩ := lookProgram_eq_ask ns id
    obtain ⟨found, some, looked⟩ := serve_aggregate only
    obtain ⟨more, rfl⟩ := Nat.exists_eq_succ_of_ne_zero some
    refine .inr ⟨_, next, .counted (more + 1), asks, .inr ⟨?_, looked, ?_⟩⟩
    · obtain ⟨membership, child⟩ := edit
      cases membership <;> rfl
    · rw [afterHit more]
      exact .returned 1
  | returned turns => exact .inl rfl

end Progress

/-! ### Runs -/

section Run

variable {ns : Namespace} {id field : String} {start second : Store} {document other : Document}
  {ids : List String} {edits : List ListEdit} {clients : Clients}

/-- Edits that are made one after another. -/
theorem apart_oneByOne (plain : field ≠ idKey ∧ field ≠ versionKey)
    (apart : start.OneApart second ns id document other) (lists : other.Lists field ids)
    (counts : other.CountsVersion) (edits : List ListEdit) :
    start.OneApart (oneByOne ns id field second edits) ns id document
      (edits.foldl (ListEdit.applied field) other) := by
  induction edits generalizing second other ids with
  | nil => exact apart
  | cons edit edits ih =>
    have answers := (ListEdit.accepts_applied plain.1 edit id).trans apart.answers
    have ran := run_editProgram plain apart.only lists counts edit
    rw [oneByOne, List.foldl_cons, ran]
    exact ih (apart.update answers) (ListEdit.lists_applied plain.2 lists edit)
      (ListEdit.counts_applied plain.2 counts edit)

/-- The run so far: the server is where the edits that have taken effect take it if they are made one
after another, no client is among them twice, and each has come as far as its turns took it. -/
structure InTurn (ns : Namespace) (id field : String) (start : Store) (document : Document)
    (edits : List ListEdit) (taken : List Nat) (clients : Clients) : Prop where
  length : clients.programs.length = edits.length
  store : clients.store = oneByOne ns id field start (clients.landed edits)
  distinct : (clients.order edits).Nodup
  progress : ∀ client edit, edits[client]? = some edit → ∃ program,
    clients.programs[client]? = some program ∧
    Progress ns id field edit ((clients.landed edits).foldl (ListEdit.applied field) document)
      (taken.count client) (decide (client ∈ clients.order edits)) program

namespace InTurn

variable {taken : List Nat}

theorem gathered (start : Store) (document : Document) (edits : List ListEdit) :
    InTurn ns id field start document edits []
      (.gathered start (edits.map (editProgram ns id field))) where
  length := List.length_map ..
  store := rfl
  distinct := List.nodup_nil
  progress client edit there := by
    refine ⟨editProgram ns id field edit, ?_, .waiting⟩
    rw [Clients.gathered, List.getElem?_map, there, Option.map_some]

/-- A turn at which nothing is left to do. -/
theorem idle (inTurn : InTurn ns id field start document edits taken clients) {client : Nat}
    (returned : ∀ edit, edits[client]? = some edit → clients.programs[client]? = some (.done ())) :
    InTurn ns id field start document edits (taken ++ [client]) clients := by
  refine ⟨inTurn.length, inTurn.store, inTurn.distinct, fun other edit there => ?_⟩
  obtain ⟨program, has, progress⟩ := inTurn.progress other edit there
  refine ⟨program, has, ?_⟩
  rw [List.count_append]
  by_cases here : other = client
  · subst here
    cases has.symm.trans (returned edit there)
    have landed := progress.landed_of_done
    rw [landed, List.count_singleton_self]
    exact .returned _
  · rw [List.count_singleton, beq_false_of_ne (Ne.symm here)]
    exact progress

section Turn

variable (plain : field ≠ idKey ∧ field ≠ versionKey) (only : start.Only ns id document)
  (lists : document.Lists field ids) (counts : document.CountsVersion)
  (inTurn : InTurn ns id field start document edits taken clients) {client : Nat} {edit : ListEdit}
  (there : edits[client]? = some edit) {command : Command} {next : Reply → Exchange StoreError Unit}
  (has : clients.programs[client]? = some (.ask command next)) {reply : Reply}

include inTurn

include plain there has in
/-- A turn at which an edit takes effect. -/
theorem land (lands : lands edit command reply = true) (fresh : client ∉ clients.order edits)
    {store : Store} (same : store = ((editProgram ns id field edit).run serve clients.store).2)
    (later : Progress ns id field edit ((clients.landed edits ++ [edit]).foldl
      (ListEdit.applied field) document) (taken.count client + 1) true (next reply)) :
    InTurn ns id field start document edits (taken ++ [client])
      (clients.served client command next (reply, store)) := by
  have effects := clients.effects_served_of_lands there lands next store
  have order : (clients.served client command next (reply, store)).order edits =
      clients.order edits ++ [client] := by
    rw [Clients.order, effects, List.map_append]
    rfl
  have landed : (clients.served client command next (reply, store)).landed edits =
      clients.landed edits ++ [edit] := by
    rw [Clients.landed, effects, List.map_append]
    rfl
  refine ⟨?length, ?store, ?distinct, fun other edit' there' => ?progress⟩
  case length => rw [Clients.served, List.length_set, inTurn.length]
  case store =>
    rw [landed, oneByOne, List.foldl_append]
    show store = ((editProgram ns id field edit).run serve (oneByOne ns id field start _)).2
    rw [← inTurn.store, same]
  case distinct =>
    rw [order, List.nodup_append]
    refine ⟨inTurn.distinct, List.pairwise_singleton _ _, fun first member second here => ?_⟩
    rw [List.mem_singleton.mp here]
    exact fun same => fresh (same ▸ member)
  case progress =>
    rw [order, landed, List.count_append]
    by_cases here : other = client
    · subst here
      cases there.symm.trans there'
      refine ⟨next reply, clients.programs_served_self has next _, ?_⟩
      simpa using later
    · obtain ⟨program, has', progress⟩ := inTurn.progress other edit' there'
      refine ⟨program, (clients.programs_served_of_ne here next _).trans has', ?_⟩
      rw [List.foldl_append, List.count_singleton, beq_false_of_ne (Ne.symm here)]
      simpa [here] using progress.of_applied plain.2 edit

include there has in
/-- A turn at which none does. -/
theorem pass (passes : lands edit command reply = false)
    (later : Progress ns id field edit ((clients.landed edits).foldl (ListEdit.applied field) document)
      (taken.count client + 1) (decide (client ∈ clients.order edits)) (next reply)) :
    InTurn ns id field start document edits (taken ++ [client])
      (clients.served client command next (reply, clients.store)) := by
  have effects := clients.effects_served_of_not_lands there passes next clients.store
  have order : (clients.served client command next (reply, clients.store)).order edits =
      clients.order edits := by
    rw [Clients.order, effects, Clients.order]
  have landed : (clients.served client command next (reply, clients.store)).landed edits =
      clients.landed edits := by
    rw [Clients.landed, effects, Clients.landed]
  refine ⟨?length, ?store, ?distinct, fun other edit' there' => ?progress⟩
  case length => rw [Clients.served, List.length_set, inTurn.length]
  case store => rw [landed, ← inTurn.store, Clients.served]
  case distinct => rw [order]; exact inTurn.distinct
  case progress =>
    rw [order, landed, List.count_append]
    by_cases here : other = client
    · subst here
      cases there.symm.trans there'
      refine ⟨next reply, clients.programs_served_self has next _, ?_⟩
      rwa [List.count_singleton_self]
    · obtain ⟨program, has', progress⟩ := inTurn.progress other edit' there'
      refine ⟨program, (clients.programs_served_of_ne here next _).trans has', ?_⟩
      rwa [List.count_singleton, beq_false_of_ne (Ne.symm here)]

include plain only lists counts in
/-- **One more turn.** A command by which an edit takes effect does what the edit alone does now; any other
leaves the server as it is. -/
theorem step (client : Nat) :
    InTurn ns id field start document edits (taken ++ [client]) (clients.step client) := by
  cases there : edits[client]? with
  | none =>
    have absent : clients.programs[client]? = none := by
      rw [List.getElem?_eq_none_iff] at there ⊢
      rwa [inTurn.length]
    rw [Clients.step_of_none absent]
    exact inTurn.idle fun edit here => by cases there.symm.trans here
  | some edit =>
    obtain ⟨program, has, progress⟩ := inTurn.progress client edit there
    have apart := apart_oneByOne plain (.of_only only) lists counts (clients.landed edits)
    obtain ⟨listed, _⟩ := ListEdit.lists_foldl_applied plain.2 lists (clients.landed edits)
    have counted := ListEdit.counts_foldl_applied plain.2 counts (clients.landed edits)
    rw [← inTurn.store] at apart
    rcases progress.advances plain apart.only listed counted with rfl | ⟨command, next, reply, rfl, now⟩
    · rw [Clients.step_of_done has]
      exact inTurn.idle fun edit _ => has
    · rw [Clients.step_of_asks has]
      rcases now with ⟨lands, fresh, served, later⟩ | ⟨passes, served, later⟩
      · have alone := run_editProgram plain apart.only listed counted edit
        rw [served]
        refine inTurn.land plain there has lands (of_decide_eq_false fresh) ?_ ?_
        · rw [alone]
        · rwa [List.foldl_append]
      · rw [served]
        exact inTurn.pass there has passes later

end Turn

/-- Any number of turns. -/
theorem run (plain : field ≠ idKey ∧ field ≠ versionKey) (only : start.Only ns id document)
    (lists : document.Lists field ids) (counts : document.CountsVersion)
    (inTurn : InTurn ns id field start document edits taken clients) (schedule : List Nat) :
    InTurn ns id field start document edits (taken ++ schedule) (clients.run schedule) := by
  induction schedule generalizing taken clients with
  | nil => rwa [List.append_nil]
  | cons client schedule ih =>
    rw [List.append_cons]
    exact ih (inTurn.step plain only lists counts client)

end InTurn

/-- **Edits take effect in turn.** Clients edit a list of one document of a server, which is unset or lists
ids, while the document counts no version or a whole number; the list is any field but key and version.
After any schedule no client has failed, and each that had two turns has returned. Each that has returned
is among those whose edit has taken effect, and none is among them twice. The server is where these edits
take it if they are made one after another, each to its end, in the order of the commands by which they
took effect. So are the ids on the list; each change of it was counted, and nothing else is touched. -/
theorem edits_take_effect_in_turn (plain : field ≠ idKey ∧ field ≠ versionKey)
    (only : start.Only ns id document) (lists : document.Lists field ids)
    (counts : document.CountsVersion) (edits : List ListEdit) (schedule : List Nat) :
    let clients := (Clients.gathered start (edits.map (editProgram ns id field))).run schedule
    let landed := clients.landed edits
    let last := landed.foldl (ListEdit.applied field) document
    let changes := ListEdit.changes ids landed
    (∀ client, client < edits.length →
      (∀ error, clients.programs[client]? ≠ some (.fail error)) ∧
      (2 ≤ schedule.count client → clients.programs[client]? = some (.done ())) ∧
      (clients.programs[client]? = some (.done ()) → client ∈ clients.order edits)) ∧
    (clients.order edits).Nodup ∧
    (∀ client edit, (client, edit) ∈ clients.effects edits → edits[client]? = some edit) ∧
    clients.store = oneByOne ns id field start landed ∧
    start.OneApart clients.store ns id document last ∧
    last.Lists field (landed.foldl (fun ids edit => edit.edited ids) ids) ∧
    last.get? versionKey = (if changes = 0 then document.get? versionKey
      else some (.int64 (document.version + Int64.ofNat changes))) ∧
    (document.version.toInt + changes ≤ Int64.maxValue.toInt →
      last.version.toInt = document.version.toInt + changes) ∧
    ∀ other, other ≠ field ∧ other ≠ versionKey → last.get? other = document.get? other := by
  intro clients landed last changes
  have inTurn : InTurn ns id field start document edits schedule clients :=
    (InTurn.gathered start document edits).run plain only lists counts schedule
  obtain ⟨listed, counted, others⟩ := ListEdit.lists_foldl_applied plain.2 lists landed
  have apart := apart_oneByOne plain (.of_only only) lists counts landed
  rw [← inTurn.store] at apart
  refine ⟨fun client inside => ?clients, inTurn.distinct,
    fun client edit => Clients.getElem?_of_mem_effects, inTurn.store, apart, listed, counted,
    fun fits => ?version, others⟩
  case clients =>
    obtain ⟨program, has, progress⟩ := inTurn.progress client _ (List.getElem?_eq_getElem inside)
    rw [has]
    refine ⟨fun error same => progress.ne_fail error (Option.some.inj same),
      fun enough => congrArg some (progress.eq_done enough), fun done => ?_⟩
    cases done
    exact of_decide_eq_true progress.landed_of_done
  case version =>
    rw [← toInt_add_ofNat fits, Document.version, counted]
    split
    · next none =>
      have same : changes = 0 := none
      rw [same]
      exact congrArg Int64.toInt (Int64.add_zero _).symm
    · rfl

end Run

/-- A course that has no list yet. -/
def unlisted : Document :=
  [("courseId", .string "algebra"), (idKey, .string "algebra"), (versionKey, .int32 3)]

/-- A server with this course only. -/
def unlistedStore : Store :=
  ⟨[(⟨systemDatabase, RecordKind.course.collection⟩, [unlisted])]⟩

/-- Two lessons are added, and the first of them is removed again. -/
def racing : List ListEdit :=
  [⟨.push, "sets"⟩, ⟨.push, "maps"⟩, ⟨.pull, "sets"⟩]

/-- The second addition comes too late to set the list, and sends its other command after the removal. -/
def race : Clients :=
  (Clients.gathered unlistedStore (racing.map (editProgram
    ⟨systemDatabase, RecordKind.course.collection⟩ "algebra" Course.lessonsField))).run [0, 1, 2, 1]

/-- The second addition takes effect last, and its lesson alone is on the list. -/
theorem edits_take_effect_in_turn_of_race :
    race.order racing = [0, 2, 1] ∧ race.programs[1]? = some (.done ()) ∧
      ∃ last, unlistedStore.OneApart race.store ⟨systemDatabase, RecordKind.course.collection⟩
          "algebra" unlisted last ∧
        last.Lists Course.lessonsField ["maps"] ∧ last.version.toInt = 6 := by
  have plain : Course.lessonsField ≠ idKey ∧ Course.lessonsField ≠ versionKey := by decide
  have only : unlistedStore.Only ⟨systemDatabase, RecordKind.course.collection⟩ "algebra" unlisted :=
    ⟨[], [], by simp [Strangers], by simp [Strangers], rfl, rfl⟩
  have lists : unlisted.Lists Course.lessonsField [] := .inr ⟨rfl, .inl rfl⟩
  have order : race.order racing = [0, 2, 1] := by decide +kernel
  have landed : race.landed racing = [⟨.push, "sets"⟩, ⟨.pull, "sets"⟩, ⟨.push, "maps"⟩] := by
    decide +kernel
  have turns := edits_take_effect_in_turn plain only lists trivial racing [0, 1, 2, 1]
  dsimp only at turns
  rw [← race, landed] at turns
  obtain ⟨each, _, _, _, apart, listed, _, counted, _⟩ := turns
  exact ⟨order, (each 1 (by decide)).2.1 (by decide), _, apart, listed, counted (by decide)⟩

end Mongo

end Syllabus
