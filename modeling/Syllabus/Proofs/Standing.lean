/-
**How far a client has come.**

Between two calls of a client that creates or updates, others write. What it may still rely on is
little: a parent that it found is there, a child that it stored is not listed yet, and the document that
it read is the same, or has counted the changes since. Its next call then adds one child, lists one
child, writes one document over, or does nothing.

* `Document.CountsFrom` — a document is as it was read, or has counted changes since; `of_guard`
  — the guard of an update tells the two apart, as long as the count has not come round;
* `Standing` — how far a client has come, and what it may rely on; `Standing.grows` — what others do
  leaves this;
* **`Standing.advances`** — what the next call of a client does to the store, and where it takes the
  client.
-/

import Syllabus.Proofs.Authors

namespace Syllabus

/-! ### Counted changes -/

/-- The document is the one that was read, or has counted changes since, up to so many. -/
def Document.CountsFrom (read : Document) (changes : Nat) (now : Document) : Prop :=
  now = read ∨ ∃ count, 1 ≤ count ∧ count ≤ changes ∧
    now.get? versionKey = some (.int64 (read.version + Int64.ofNat count))

namespace Document.CountsFrom

variable {read now next : Document} {changes more : Nat}

theorem mono (counts : read.CountsFrom changes now) (further : changes ≤ more) :
    read.CountsFrom more now := by
  rcases counts with same | ⟨count, positive, bounded, counted⟩
  · exact .inl same
  · exact .inr ⟨count, positive, Nat.le_trans bounded further, counted⟩

theorem succ (counts : read.CountsFrom changes now)
    (counted : next.get? versionKey = some (.int64 (now.version + 1))) :
    read.CountsFrom (changes + 1) next := by
  rcases counts with rfl | ⟨count, positive, bounded, before⟩
  · exact .inr ⟨1, Nat.le_refl _, Nat.le_add_left .., counted⟩
  · refine .inr ⟨count + 1, Nat.le_add_left .., Nat.succ_le_succ bounded, ?_⟩
    have version : now.version = read.version + Int64.ofNat count := by
      rw [Document.version, before]
      rfl
    rw [counted, version, Int64.ofNat_add, Int64.add_assoc]
    rfl

/-- Fewer than 2^64 changes do not bring a version back, so a guard for the version that was read is met
only by the document that was read. -/
theorem of_guard (counts : read.CountsFrom changes now) (few : changes < 2 ^ 64) {id : String}
    (accepted : (Filter.guard id ((read.get? versionKey).getD .null)).accepts now = true) :
    now = read := by
  rcases counts with same | ⟨count, positive, bounded, counted⟩
  · exact same
  · have matched : (Bson.int64 (read.version + Int64.ofNat count)).same
        ((read.get? versionKey).getD .null) = true := by
      simp only [Filter.guard, Filter.byId, Filter.also, Filter.accepts, List.all_append, List.all_cons,
        List.all_nil, Condition.holds, counted, Bool.and_true, Bool.and_eq_true] at accepted
      simpa only [valueMatches] using accepted.2
    have version : read.version = read.version + Int64.ofNat count := by
      have same := congrArg versionNumber (Bson.eq_of_int64_same matched)
      exact same
    have none : Int64.ofNat count = 0 := Int64.add_eq_left.mp version.symm
    have zero : count % 2 ^ 64 = 0 := by
      have bits := congrArg (fun number => number.toBitVec.toNat) none
      simpa using bits
    omega

end Document.CountsFrom

/-! ### What a client relies on -/

namespace Reaches

variable {ε α : Type} {call : Call} {rest : (call.Answer → StoreProgram ε α) → Prop}
  {program : StoreProgram ε α}

theorem ne_done (reaches : Reaches call rest program) (value : α) : program ≠ .done value := by
  rintro rfl
  cases reaches

theorem not_enrolls (reaches : Reaches call rest program)
    (other : ∀ bond : Bond, call ≠ ⟨.sync, bond.request .push⟩) (bond : Bond) :
    ¬ Enrolls bond program := by
  rintro ⟨next, rfl, _⟩
  cases reaches with
  | there _ _ => exact other bond rfl

end Reaches

section NotEnrolls

variable {ε α : Type} {bond : Bond} {record : bond.childKind.Carrier} {program : StoreProgram ε α}

theorem Adopts.not_enrolls (adopts : Adopts bond record program) (other : Bond) :
    ¬ Enrolls other program :=
  Reaches.not_enrolls adopts (fun _ same => by cases same) other

theorem Seeks.not_enrolls (seeks : Seeks bond record program) (other : Bond) :
    ¬ Enrolls other program := by
  rintro ⟨_, rfl, _⟩
  rcases seeks with ⟨_, impossible⟩ | ⟨_, impossible, _⟩ <;> cases impossible

end NotEnrolls

/-- How far a client has come, at a store where so many clients have ended. -/
inductive Standing (store : Store) (ended : Nat) (task : Authoring) :
    StoreProgram CurriculumError Unit → Prop
  | failed (error : CurriculumError) : Standing store ended task (.fail error)
  | seeking (bond : Bond) (record : bond.childKind.Carrier)
      (program : StoreProgram CurriculumError Unit) :
      task.creates? = some bond → bond.Newborn record → Seeks bond record program →
      Standing store ended task program
  | adopting (bond : Bond) (record : bond.childKind.Carrier)
      (program : StoreProgram CurriculumError Unit) :
      task.creates? = some bond → bond.Newborn record →
      store.listAt bond.listing bond.course bond.parent ≠ none → Adopts bond record program →
      Standing store ended task program
  | enrolling (bond : Bond) (program : StoreProgram CurriculumError Unit) :
      task.creates? = some bond → store.listAt bond.listing bond.course bond.parent ≠ none →
      store.Holds bond → ¬ store.Lists bond → Enrolls bond program → Standing store ended task program
  | enrolled (bond : Bond) :
      task.creates? = some bond → store.Lists bond → Standing store ended task (.done ())
  | looking (kind : RecordKind) (c id : String) (change : kind.Carrier)
      (program : StoreProgram CurriculumError Unit) :
      task.creates? = none → kind ≠ .user → Looks c id change program →
      Standing store ended task program
  | overwriting (kind : RecordKind) (c id : String) (read now : Document)
      (record change : kind.Carrier) (program : StoreProgram CurriculumError Unit) :
      task.creates? = none → kind ≠ .user → read.Represents c record → Record.id record = id →
      store.findOne (kind.home c) (.byId id) = some now → read.CountsFrom ended now →
      Overwrites c id read (merge record change) program → Standing store ended task program
  | updated (program : StoreProgram CurriculumError Unit) :
      task.creates? = none → program.hasEnded = true → Standing store ended task program

namespace Store.Grows

variable {old next : Store} {bumps more : Prop} {added pushed : Option Bond}

theorem mono (grows : old.Grows next bumps added pushed) (weaker : bumps → more) :
    old.Grows next more added pushed where
  regular := grows.regular
  found kind someone c id document there := by
    obtain ⟨now, here, same | ⟨counts, counted⟩⟩ := grows.found kind someone c id document there
    · exact ⟨now, here, .inl same⟩
    · exact ⟨now, here, .inr ⟨weaker counts, counted⟩⟩
  holds := grows.holds
  lists := grows.lists
  parents := grows.parents
  longer := grows.longer

/-- A parent that is there stays. -/
theorem listAt_ne_none (grows : old.Grows next bumps added pushed) {kind : RecordKind}
    {listing : Listing kind} {c id : String} (there : old.listAt listing c id ≠ none) :
    next.listAt listing c id ≠ none := by
  obtain ⟨ids, before⟩ := Option.ne_none_iff_exists'.mp there
  rcases grows.longer listing c id ids before with same | ⟨bond, _, longer, _⟩
  · simp [same]
  · simp [longer]

end Store.Grows

/-- **What others do leaves the standing of a client.** -/
theorem Standing.grows {store next : Store} {ended later : Nat} {task : Authoring}
    {program : StoreProgram CurriculumError Unit} {bumps : Prop} {added pushed : Option Bond}
    (standing : Standing store ended task program) (grows : store.Grows next bumps added pushed)
    (further : ended ≤ later) (counts : bumps → ended + 1 ≤ later)
    (apart : ∀ bond, task.creates? = some bond → Enrolls bond program → pushed ≠ some bond) :
    Standing next later task program := by
  cases standing with
  | failed error => exact .failed error
  | seeking bond record _ creates newborn seeks => exact .seeking bond record _ creates newborn seeks
  | adopting bond record _ creates newborn parent adopts =>
    exact .adopting bond record _ creates newborn (grows.listAt_ne_none parent) adopts
  | enrolling bond _ creates parent holds unlisted enrolls =>
    refine .enrolling bond _ creates (grows.listAt_ne_none parent) ((grows.holds bond).mpr (.inl holds))
      (fun listed => ?_) enrolls
    exact ((grows.lists bond).mp listed).elim unlisted (apart bond creates enrolls)
  | enrolled bond creates listed => exact .enrolled bond creates ((grows.lists bond).mpr (.inl listed))
  | looking kind c id change _ updates someone looks =>
    exact .looking kind c id change _ updates someone looks
  | overwriting kind c id read now record change _ updates someone represents named found since left =>
    obtain ⟨after, here, same | ⟨bumped, counted⟩⟩ := grows.found kind someone c id now found
    · exact .overwriting kind c id read after record change _ updates someone represents named here
        (same ▸ since.mono further) left
    · exact .overwriting kind c id read after record change _ updates someone represents named here
        ((since.succ counted).mono (counts bumped)) left
  | updated _ updates finished => exact .updated _ updates finished

namespace Standing

variable {store : Store} {ended : Nat} {task : Authoring} {bond : Bond}

/-- A child that is about to be listed is stored, and is not listed yet. -/
theorem of_enrolls {program : StoreProgram CurriculumError Unit}
    (standing : Standing store ended task program) (creates : task.creates? = some bond)
    (enrolls : Enrolls bond program) :
    store.Holds bond ∧ ¬ store.Lists bond := by
  cases standing with
  | enrolling other _ same _ holds unlisted _ =>
    cases creates.symm.trans same
    exact ⟨holds, unlisted⟩
  | failed _ | enrolled _ _ _ =>
    obtain ⟨_, impossible, _⟩ := enrolls
    cases impossible
  | seeking _ _ _ _ _ seeks => exact absurd enrolls (seeks.not_enrolls bond)
  | adopting _ _ _ _ _ _ adopts => exact absurd enrolls (adopts.not_enrolls bond)
  | looking _ _ _ _ _ updates _ _ => cases creates.symm.trans updates
  | overwriting _ _ _ _ _ _ _ _ updates _ _ _ _ _ _ => cases creates.symm.trans updates
  | updated _ updates _ => cases creates.symm.trans updates

/-- The child of a creation that has returned is listed. -/
theorem lists_of_done (standing : Standing store ended task (.done ()))
    (creates : task.creates? = some bond) : store.Lists bond := by
  cases standing with
  | enrolled other same listed =>
    cases creates.symm.trans same
    exact listed
  | seeking _ _ _ _ _ seeks =>
    rcases seeks with ⟨_, impossible⟩ | ⟨_, impossible, _⟩ <;> cases impossible
  | adopting _ _ _ _ _ _ adopts => exact absurd rfl (Reaches.ne_done adopts ())
  | enrolling _ _ _ _ _ _ enrolls =>
    obtain ⟨_, impossible, _⟩ := enrolls
    cases impossible
  | looking _ _ _ _ _ updates _ _ => cases creates.symm.trans updates
  | overwriting _ _ _ _ _ _ _ _ updates _ _ _ _ _ _ => cases creates.symm.trans updates
  | updated _ updates _ => cases creates.symm.trans updates

end Standing

/-! ### The next call -/

/-- The client has stored its child: it lists it next, or has returned. -/
def Authoring.Born (task : Authoring) (program : StoreProgram CurriculumError Unit) (bond : Bond) :
    Prop :=
  task.creates? = some bond ∧ (Enrolls bond program ∨ program = .done ())

/-- What one call of a client comes to: the store grows by a child that the client stores, or by one
that it lists, and the client has come further. -/
structure Advances (task : Authoring) (ended : Nat) (old next : Store)
    (program left : StoreProgram CurriculumError Unit) (added pushed : Option Bond) : Prop where
  standing : Standing next ended task left
  grows : old.Grows next (left.hasEnded = true) added pushed
  adopted : ∀ bond, added = some bond → task.creates? = some bond ∧ Enrolls bond left ∧
    old.findOne bond.childNs (.byId bond.child) = none
  enrolled : ∀ bond, pushed = some bond ↔ task.creates? = some bond ∧ Enrolls bond program
  born : ∀ bond, task.Born left bond → task.Born program bond ∨ added = some bond
  steady : task.creates? = none → ∀ {kind : RecordKind} (listing : Listing kind) (c id : String),
    next.listAt listing c id = old.listAt listing c id

variable {old next store : Store} {ended : Nat} {task : Authoring}
  {program left : StoreProgram CurriculumError Unit}

theorem Authoring.not_born_of_fail (error : CurriculumError) (bond : Bond) :
    ¬ task.Born (.fail error) bond := by
  rintro ⟨_, ⟨_, impossible, _⟩ | impossible⟩ <;> cases impossible

theorem Adopts.not_born {bond : Bond} {record : bond.childKind.Carrier}
    (adopts : Adopts bond record program) (other : Bond) : ¬ task.Born program other := by
  rintro ⟨_, enrolls | done⟩
  · exact adopts.not_enrolls other enrolls
  · exact Reaches.ne_done adopts () done

/-- A call that changes nothing that is found. -/
theorem Advances.quiet (alike : old.Alike next) (standing : Standing next ended task left)
    (apart : ∀ bond, ¬ Enrolls bond program)
    (unborn : ∀ bond, ¬ task.Born left bond) :
    Advances task ended old next program left none none where
  standing := standing
  grows := alike.grows _
  adopted := nofun
  enrolled bond := ⟨nofun, fun ⟨_, enrolls⟩ => absurd enrolls (apart bond)⟩
  born bond born := absurd born (unborn bond)
  steady _ _ listing c id := alike.listAt_eq listing c id

/-- An update has no child to list. -/
theorem Advances.of_updates (updates : task.creates? = none)
    (grows : old.Grows next (left.hasEnded = true) none none) (standing : Standing next ended task left)
    (steady : ∀ {kind : RecordKind} (listing : Listing kind) (c id : String),
      next.listAt listing c id = old.listAt listing c id) :
    Advances task ended old next program left none none where
  standing := standing
  grows := grows
  adopted := nofun
  enrolled _ := ⟨nofun, fun ⟨creates, _⟩ => absurd (updates.symm.trans creates) nofun⟩
  born _ born := absurd (updates.symm.trans born.1) nofun
  steady _ _ := steady

section Calls

variable {call : Call} {rest : call.Answer → StoreProgram CurriculumError Unit} {bond : Bond}
  (regular : store.Regular) (spare : ObjectId)

include regular

/-- The parent is found, or the client fails. -/
theorem Seeks.advances {record : bond.childKind.Carrier} (creates : task.creates? = some bond)
    (newborn : bond.Newborn record) (seeks : Seeks bond record (.ask call rest)) :
    Advances task ended store (store.respond spare call).2 (.ask call rest)
      (rest (store.respond spare call).1) none none := by
  have apart := seeks.not_enrolls
  rcases seeks with ⟨_, impossible⟩ | ⟨after, same, ⟨error, missing⟩, adopts⟩
  · cases impossible
  cases same
  show Advances task ended store store _ (after (.ok (store.findOne ..))) none none
  cases found : store.findOne bond.parentNs (.byId bond.parent) with
  | none =>
    rw [missing]
    exact .quiet regular.alike (.failed error) apart (Authoring.not_born_of_fail error)
  | some document =>
    obtain ⟨parent, represents, named⟩ := regular.of_findOne bond.parentKind_ne_user found
    have adopts := adopts document parent represents named
    refine .quiet regular.alike (.adopting bond record _ creates newborn ?_ adopts) apart adopts.not_born
    rw [Store.listAt, ← Bond.parentNs, Store.recordAt_of_found found represents]
    exact Option.some_ne_none _

/-- The child is checked further, stored, or refused. -/
theorem Adopts.advances {record : bond.childKind.Carrier} (creates : task.creates? = some bond)
    (newborn : bond.Newborn record) (stored : ∀ bond, store.Lists bond → store.Holds bond)
    (parent : store.listAt bond.listing bond.course bond.parent ≠ none)
    (adopts : Adopts bond record (.ask call rest)) :
    ∃ added, Advances task ended store (store.respond spare call).2 (.ask call rest)
      (rest (store.respond spare call).1) added none := by
  have apart := adopts.not_enrolls
  cases adopts with
  | checking ns filter _ further =>
    have adopts : Adopts bond record _ := further (.ok (store.count ns filter))
    exact ⟨none, .quiet regular.alike (.adopting bond record _ creates newborn parent adopts) apart
      adopts.not_born⟩
  | there after holds =>
    obtain ⟨placed, fails, enrolls⟩ := holds
    obtain ⟨keyed, takes, childless⟩ := newborn
    show ∃ added, Advances task ended store (store.insertOne spare ..).2 _
      (after (store.insertOne spare ..).1) added none
    have made := regular.insertOne bond.childKind_ne_user spare placed
    rw [keyed, ← Bond.childNs] at made
    rcases made with ⟨error, refused⟩ | ⟨⟨key, accepted⟩, free, puts⟩
    · rw [refused]
      obtain ⟨failure, failed⟩ := fails error
      rw [failed]
      exact ⟨none, .quiet regular.alike (.failed failure) apart (Authoring.not_born_of_fail failure)⟩
    · have represents := Document.Represents.of_stored placed 1
      rw [keyed] at represents
      have grows := Store.grows_of_adoption puts represents takes childless free
      have holds := (grows.holds bond).mpr (.inr rfl)
      rw [accepted]
      have unlisted : ¬ store.Lists bond := fun listed =>
        Store.not_holds_of_free free (stored bond listed)
      exact ⟨some bond, {
        standing := .enrolling bond _ creates (grows.listAt_ne_none parent) holds
          (fun listed => ((grows.lists bond).mp listed).elim unlisted (Option.some_ne_none _).symm) (enrolls key)
        grows := grows.mono False.elim
        adopted := by
          rintro _ ⟨⟩
          exact ⟨creates, enrolls key, free⟩
        enrolled := fun other => ⟨fun impossible => absurd impossible.symm (Option.some_ne_none _),
          fun enrolls => absurd enrolls.2 (apart other)⟩
        born := fun other here => .inr (creates.symm.trans here.1)
        steady := fun nobody => absurd (creates.symm.trans nobody) (Option.some_ne_none _) }⟩

/-- The child is listed. -/
theorem Enrolls.advances (creates : task.creates? = some bond)
    (parent : store.listAt bond.listing bond.course bond.parent ≠ none)
    (enrolls : Enrolls bond (.ask call rest)) :
    Advances task ended store (store.respond spare call).2 (.ask call rest)
      (rest (store.respond spare call).1) none (some bond) := by
  have enrolling := enrolls
  obtain ⟨after, same, value, returns⟩ := enrolls
  cases same
  obtain ⟨record, there⟩ := Option.ne_none_iff_exists'.mp (mt Option.map_eq_none_iff.mpr parent)
  obtain ⟨document, found, represents, _⟩ := regular.recordAt_eq_some bond.parentKind_ne_user there
  obtain ⟨answered, now, puts, edited, counted⟩ :=
    regular.push bond.parentKind_ne_user found represents bond.listing bond.child
  rw [← Bond.parentNs] at answered puts
  have grows := Store.grows_of_push found puts counted represents edited
  show Advances task ended store (store.editMembership ..).2 _ (after (store.editMembership ..).1) none _
  rw [answered, returns]
  exact {
    standing := .enrolled bond creates ((grows.lists bond).mpr (.inr rfl))
    grows := grows.mono fun _ => rfl
    adopted := fun _ impossible => absurd impossible.symm (Option.some_ne_none _)
    enrolled := by
      intro other
      constructor
      · rintro ⟨⟩
        exact ⟨creates, enrolling⟩
      · exact fun here => creates.symm.trans here.1
    born := by
      rintro other ⟨here, _⟩
      cases creates.symm.trans here
      exact .inl ⟨creates, .inl enrolling⟩
    steady := fun nobody => absurd (creates.symm.trans nobody) (Option.some_ne_none _) }

variable {kind : RecordKind} {c id : String} {change : kind.Carrier} (updates : task.creates? = none)
  (someone : kind ≠ .user)

include updates someone

/-- The record is found, or the client fails. -/
theorem Looks.advances (looks : Looks c id change (.ask call rest)) :
    Advances task ended store (store.respond spare call).2 (.ask call rest)
      (rest (store.respond spare call).1) none none := by
  rcases looks with ⟨_, impossible⟩ | ⟨after, same, ⟨error, missing⟩, overwrites⟩
  · cases impossible
  cases same
  show Advances task ended store store _ (after (.ok (store.findOne ..))) none none
  cases found : store.findOne (kind.home c) (.byId id) with
  | none =>
    rw [missing]
    exact .of_updates updates (regular.alike.grows _) (.failed error) fun _ _ _ => rfl
  | some document =>
    obtain ⟨record, represents, named⟩ := regular.of_findOne someone found
    exact .of_updates updates (regular.alike.grows _)
      (.overwriting kind c id document document record change _ updates someone represents named found
        (.inl rfl) (overwrites document record represents named)) fun _ _ _ => rfl

/-- The change is checked further, written over the document that was read, or refused. -/
theorem Overwrites.advances {read now : Document} {record : kind.Carrier}
    (represents : read.Represents c record) (named : Record.id record = id)
    (found : store.findOne (kind.home c) (.byId id) = some now) (since : read.CountsFrom ended now)
    (few : ended < 2 ^ 64) (overwrites : Overwrites c id read (merge record change) (.ask call rest)) :
    Advances task ended store (store.respond spare call).2 (.ask call rest)
      (rest (store.respond spare call).1) none none := by
  cases overwrites with
  | checking ns filter _ further =>
    exact .of_updates updates (regular.alike.grows _)
      (.overwriting kind c id read now record change _ updates someone represents named found since
        (further _)) fun _ _ _ => rfl
  | there after ends =>
    show Advances task ended store (store.replaceOne ..).2 _ (after (.ok (store.replaceOne ..).1))
      none none
    have finished := ends (.ok (store.replaceOne (kind.home c)
      (.guard id ((read.get? versionKey).getD .null))
      (Records.stored id (read.version + 1) (merge record change))).1)
    have made := regular.replaceOne someone found represents named change
      ((read.get? versionKey).getD .null) (read.version + 1)
    simp only at made
    split at made
    · next accepted =>
      cases since.of_guard few accepted
      have written := represents.merged change (read.version + 1)
      rw [named] at written
      obtain ⟨grows, lists⟩ := Store.grows_of_merge found made (Records.get?_stored_version ..)
        represents written
      exact .of_updates updates (grows.mono fun _ => finished) (.updated _ updates finished) lists
    · exact .of_updates updates (made.grows _) (.updated _ updates finished) made.listAt_eq

end Calls

/-- **The next call of a client** stores its child, lists its child, writes its change over what it has
read, or does nothing. -/
theorem Standing.advances {call : Call} {rest : call.Answer → StoreProgram CurriculumError Unit}
    (standing : Standing store ended task (.ask call rest)) (regular : store.Regular)
    (few : ended < 2 ^ 64) (stored : ∀ bond, store.Lists bond → store.Holds bond) (spare : ObjectId) :
    ∃ added pushed, Advances task ended store (store.respond spare call).2 (.ask call rest)
      (rest (store.respond spare call).1) added pushed := by
  cases standing with
  | seeking bond record _ creates newborn seeks =>
    exact ⟨_, _, seeks.advances regular spare creates newborn⟩
  | adopting bond record _ creates newborn parent adopts =>
    obtain ⟨added, advances⟩ := adopts.advances regular spare creates newborn stored parent
    exact ⟨added, none, advances⟩
  | enrolling bond _ creates parent _ _ enrolls =>
    exact ⟨_, _, enrolls.advances regular spare creates parent⟩
  | looking kind c id change _ updates someone looks =>
    exact ⟨_, _, looks.advances regular spare updates someone⟩
  | overwriting kind c id read now record change _ updates someone represents named found since left =>
    exact ⟨_, _, left.advances regular spare updates someone represents named found since few⟩
  | updated _ _ finished => cases finished

end Syllabus
