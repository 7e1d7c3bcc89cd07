/-
**Documents by their keys, and the lists of parents.**

In a store whose documents stand for records, what is found under a key is what counts: calls look at it
and edit it, and further documents with the key are never seen. Each write is told on this, and on the
lists of the parents that are found.

* `Store.Puts`, `Store.Alike` — a document is put under one key, or none is;
* `Regular.insertOne`, `Regular.replaceOne`, `Regular.push` — what writes put;
* `Store.listAt` — the list of the parent with a key;
* `Store.Grows` — what all writes of creations and updates come to: children are added, and listed, and
  documents count their changes; `Alike.grows`, `grows_of_adoption`, `grows_of_push`, `grows_of_merge`.
-/

import Syllabus.Proofs.Regular

namespace Syllabus

namespace Store

/-! ### The first document that changes -/

/-- Where a change keeps what is looked for, what is found is found after it, changed or not. -/
theorem find?_changeFirst {filter : Filter} {change : Document → Document} {asked : Document → Bool}
    {documents : List Document}
    (keeps : ∀ document ∈ documents, filter.accepts document = true →
      asked document = true ∧ asked (change document) = true) :
    (changeFirst filter change documents).find? asked =
      (documents.find? asked).map fun document =>
        if filter.accepts document then change document else document := by
  induction documents with
  | nil => rfl
  | cons first rest ih =>
    have ih := ih fun document member => keeps document (List.mem_cons_of_mem _ member)
    by_cases accepted : filter.accepts first = true
    · obtain ⟨before, after⟩ := keeps first List.mem_cons_self accepted
      simp [changeFirst, accepted, before, after]
    · by_cases here : asked first = true
      · simp [changeFirst, accepted, here]
      · simp [changeFirst, accepted, here, ih]

/-- A change of something else is not seen. -/
theorem find?_changeFirst_of_apart {filter : Filter} {change : Document → Document}
    {asked : Document → Bool} {documents : List Document}
    (apart : ∀ document ∈ documents, filter.accepts document = true →
      asked document = false ∧ asked (change document) = false) :
    (changeFirst filter change documents).find? asked = documents.find? asked := by
  induction documents with
  | nil => rfl
  | cons first rest ih =>
    have ih := ih fun document member => apart document (List.mem_cons_of_mem _ member)
    by_cases accepted : filter.accepts first = true
    · obtain ⟨before, after⟩ := apart first List.mem_cons_self accepted
      simp [changeFirst, accepted, before, after]
    · simp [changeFirst, accepted, List.find?_cons, ih]

theorem mem_changeFirst {filter : Filter} {change : Document → Document} {documents : List Document}
    {document : Document} (member : document ∈ changeFirst filter change documents) :
    document ∈ documents ∨
      ∃ before ∈ documents, filter.accepts before = true ∧ document = change before := by
  induction documents with
  | nil => cases member
  | cons first rest ih =>
    rw [changeFirst] at member
    split at member
    · next accepted =>
      rcases List.mem_cons.mp member with here | later
      · exact .inr ⟨first, List.mem_cons_self, accepted, here⟩
      · exact .inl (List.mem_cons_of_mem _ later)
    · rcases List.mem_cons.mp member with rfl | later
      · exact .inl List.mem_cons_self
      · rcases ih later with before | ⟨before, known, changed⟩
        · exact .inl (List.mem_cons_of_mem _ before)
        · exact .inr ⟨before, List.mem_cons_of_mem _ known, changed⟩

/-! ### What writes put under keys -/

/-- Under one key there is this document now, and all else is found as before. -/
structure Puts (old next : Store) (ns : Namespace) (id : String) (document : Document) : Prop where
  regular : next.Regular
  here : next.findOne ns (.byId id) = some document
  others : ∀ other key, ¬ (other = ns ∧ key = id) →
    next.findOne other (.byId key) = old.findOne other (.byId key)

/-- All is found as before. -/
structure Alike (old next : Store) : Prop where
  regular : next.Regular
  found : ∀ ns key, next.findOne ns (.byId key) = old.findOne ns (.byId key)

theorem Regular.alike {store : Store} (regular : store.Regular) : store.Alike store :=
  ⟨regular, fun _ _ => rfl⟩

theorem findOne_of_documents_eq {old next : Store} {ns : Namespace}
    (same : next.documents ns = old.documents ns) (filter : Filter) :
    next.findOne ns filter = old.findOne ns filter := by
  rw [findOne, findOne, same]

namespace Regular

variable {store : Store} {kind : RecordKind} {c : String}

/-- An insertion is refused, or puts the document under its key, which was free. -/
theorem insertOne (regular : store.Regular) (someone : kind ≠ .user) (spare : ObjectId)
    {record : kind.Carrier} (placed : Record.place record = .ok (kind.home c)) :
    let document := Records.stored (Record.id record) 1 record
    let reply := store.insertOne spare (kind.home c) document
    (∃ error, reply = (.error error, store)) ∨
      (∃ key, reply.1 = .ok key) ∧
      store.findOne (kind.home c) (.byId (Record.id record)) = none ∧
      store.Puts reply.2 (kind.home c) (Record.id record) document := by
  intro document reply
  have represents : document.Represents c record := .of_stored placed 1
  rcases insertOne_cases spare store (kind.home c) represents.keyed with refused | ⟨accepted, patched⟩
  · exact .inl refused
  have last := documents_insertOne_of_ok accepted
  have whole : (keyed spare document).2 = document := by
    rw [keyed, represents.keyed]
  rw [whole] at last
  have free : store.findOne (kind.home c) (.byId (Record.id record)) = none := by
    cases found : store.findOne (kind.home c) (.byId (Record.id record)) with
    | none => rfl
    | some taken =>
      -- A document that answers to the key would have been in the way.
      obtain ⟨other, represented, named⟩ := regular.of_findOne someone found
      have held : holdsKey (.string (Record.id record)) taken = true := by
        simp [holdsKey, represented.keyed, named]
      have full : ((store.opened (kind.home c)).documents (kind.home c)).any
          (holdsKey (.string (Record.id record))) = true := by
        rw [documents_opened]
        exact List.any_eq_true.mpr ⟨taken, List.mem_of_find?_eq_some found, held⟩
      have named : keyed spare document = (.string (Record.id record), document) := by
        rw [keyed, represents.keyed]
      unfold Store.insertOne at accepted
      simp only [named, full, if_true] at accepted
      cases accepted
  refine .inr ⟨⟨_, accepted⟩, free, ?_, ?_, ?_⟩
  · exact patched.regular regular fun put same => ⟨record, Option.some.inj same ▸ represents⟩
  · rw [findOne, last, List.find?_append, ← findOne, free, Option.none_or]
    simp [represents.answers]
  · intro other key different
    by_cases there : other = kind.home c
    · subst there
      have stranger : (Filter.byId key).accepts document = false := by
        rw [represents.answers]
        exact beq_false_of_ne fun same => different ⟨rfl, same.symm⟩
      rw [findOne, last, List.find?_append, List.find?_singleton, if_neg (by simp [stranger]),
        Option.or_none, findOne]
    · exact findOne_of_documents_eq (patched.elsewhere other there) _

/-- A change of the first document that meets a filter for one key, which keeps the key. -/
theorem changeFirst (regular : store.Regular) (someone : kind ≠ .user) (filter : Filter)
    (id : String) (change : Document → Document) {next : Store}
    (narrow : ∀ document, filter.accepts document = true → (Filter.byId id).accepts document = true)
    (represented : ∀ document ∈ store.documents (kind.home c), filter.accepts document = true →
      ∃ record : kind.Carrier, (change document).Represents c record ∧ Record.id record = id)
    (changed : next.documents (kind.home c) =
      Store.changeFirst filter change (store.documents (kind.home c)))
    (elsewhere : ∀ other, other ≠ kind.home c → next.documents other = store.documents other) :
    next.Regular ∧
      next.findOne (kind.home c) (.byId id) = (store.findOne (kind.home c) (.byId id)).map
        (fun document => if filter.accepts document then change document else document) ∧
      ∀ other key, ¬ (other = kind.home c ∧ key = id) →
        next.findOne other (.byId key) = store.findOne other (.byId key) := by
  refine ⟨?_, ?_, fun other key different => ?_⟩
  · intro other someone' d document member
    by_cases there : other.home d = kind.home c
    · cases RecordKind.eq_of_home_eq there
      rw [there, changed] at member
      rcases mem_changeFirst member with before | ⟨before, known, accepted, rfl⟩
      · exact regular _ someone' d document (there ▸ before)
      · obtain ⟨record, represents, _⟩ := represented before known accepted
        exact ⟨record, represents.of_home_eq there.symm⟩
    · rw [elsewhere _ there] at member
      exact regular other someone' d document member
  · rw [findOne, changed]
    refine find?_changeFirst fun document member accepted => ⟨narrow document accepted, ?_⟩
    obtain ⟨record, represents, named⟩ := represented document member accepted
    rw [represents.answers, named, beq_self_eq_true]
  · by_cases there : other = kind.home c
    · subst there
      have other : id ≠ key := fun same => different ⟨rfl, same.symm⟩
      rw [findOne, changed]
      refine find?_changeFirst_of_apart fun document member accepted => ⟨?_, ?_⟩
      · obtain ⟨before, represented⟩ := regular kind someone c document member
        have named := represented.answers id
        rw [narrow document accepted] at named
        rw [represented.answers, eq_of_beq named.symm]
        exact beq_false_of_ne other
      · obtain ⟨record, represents, named⟩ := represented document member accepted
        rw [represents.answers, named]
        exact beq_false_of_ne other
    · exact findOne_of_documents_eq (elsewhere other there) _

/-- A push onto the list of a record that is found puts a document of the record with the longer list,
which counts the change. -/
theorem push (regular : store.Regular) (someone : kind ≠ .user) {id : String} {document : Document}
    {record : kind.Carrier} (found : store.findOne (kind.home c) (.byId id) = some document)
    (represents : document.Represents c record) (listing : Listing kind) (child : String) :
    let reply := store.editMembership (kind.home c) id .push listing.field (.string child)
    reply.1 = .ok () ∧ ∃ now : Document, store.Puts reply.2 (kind.home c) id now ∧
      now.Represents c (listing.edited .push child record) ∧
      now.get? versionKey = some (.int64 (document.version + 1)) := by
  intro reply
  have accepted := List.find?_some found
  have named : Record.id record = id := by
    rwa [represents.answers, beq_iff_eq] at accepted
  have made := listing.withMembership_push child represents.decodes
  have counted := listing.get?_written_version (listing.items document ++ [.string child]) document
  obtain ⟨ids, written, plainly⟩ := represents.edited listing made
  rw [plainly (.inl rfl), ← Listing.edited] at written
  generalize listing.written _ document = now at made counted written
  have replied : reply =
      (.ok (), store.update (kind.home c) (Store.changeFirst (.byId id) fun _ => now)) := by
    simp only [reply, editMembership, found, made]
  have changed : reply.2.documents (kind.home c) =
      Store.changeFirst (.byId id) (fun _ => now) (store.documents (kind.home c)) := by
    rw [replied, documents_update_self _ _ rfl]
  have elsewhere : ∀ other, other ≠ kind.home c → reply.2.documents other = store.documents other := by
    intro other different
    rw [replied, documents_update_of_ne different]
  obtain ⟨regular, here, others⟩ := regular.changeFirst someone (.byId id) id (fun _ => now)
    (fun _ accepted => accepted) (fun _ _ _ => ⟨_, written, (listing.id_edited ..).trans named⟩)
    changed elsewhere
  refine ⟨by rw [replied], now, ⟨regular, ?_, others⟩, written, counted⟩
  rw [here, found, Option.map_some, if_pos accepted]

/-- An update writes over the document that is found, if this has the version that was read; otherwise
nothing that is found is changed. -/
theorem replaceOne (regular : store.Regular) (someone : kind ≠ .user) {id : String}
    {record : kind.Carrier} {document : Document}
    (found : store.findOne (kind.home c) (.byId id) = some document)
    {read : Document} (represents : read.Represents c record) (named : Record.id record = id)
    (change : kind.Carrier) (previous : Bson) (version : Int64) :
    let new := Records.stored id version (merge record change)
    let reply := store.replaceOne (kind.home c) (.guard id previous) new
    if (Filter.guard id previous).accepts document then store.Puts reply.2 (kind.home c) id new
      else store.Alike reply.2 := by
  intro new reply
  have written : new.Represents c (merge record change) := by
    have merged := represents.merged change version
    rwa [named] at merged
  have narrow : ∀ document, (Filter.guard id previous).accepts document = true →
      (Filter.byId id).accepts document = true := by
    intro document accepted
    cases answers : (Filter.byId id).accepts document with
    | true => rfl
    | false => exact absurd accepted (by simp [guard_unmet answers])
  have replacement : ∀ other ∈ store.documents (kind.home c),
      (Filter.guard id previous).accepts other = true → Store.replacement other new = new := by
    intro other member accepted
    obtain ⟨replaced, represented⟩ := regular kind someone c other member
    have keyed := represented.keyed
    rw [represented.id_eq_of_guard accepted] at keyed
    exact Records.replacement_stored keyed version (merge record change)
  have elsewhere : ∀ other, other ≠ kind.home c → reply.2.documents other = store.documents other :=
    fun other different => documents_respond_of_ne
      ⟨.update, .replaceOne (kind.home c) (.guard id previous) new⟩
      (fun written target => (Option.some.inj target).symm) different ⟨0⟩ store
  obtain ⟨regular, here, others⟩ := regular.changeFirst someone (.guard id previous) id
    (fun document => Store.replacement document new) narrow
    (fun other member accepted => ⟨merge record change,
      by rwa [replacement other member accepted], (LawfulRecord.id_merge ..).trans named⟩)
    (documents_replaceOne ..) elsewhere
  rw [found, Option.map_some] at here
  split
  · next accepted =>
    rw [if_pos accepted, replacement document (List.mem_of_find?_eq_some found) accepted] at here
    exact ⟨regular, here, others⟩
  · next refused =>
    rw [if_neg refused] at here
    refine ⟨regular, fun ns key => ?_⟩
    by_cases there : ns = kind.home c ∧ key = id
    · rw [there.1, there.2, here, found]
    · exact others ns key there

end Regular

/-! ### Records and lists -/

end Store

theorem Listing.members_merge {kind : RecordKind} (listing : Listing kind)
    (record change : kind.Carrier) : listing.members (merge record change) = listing.members record := by
  cases listing <;> rfl

theorem Bond.takes_merge (bond : Bond) (record change : bond.childKind.Carrier) :
    bond.Takes (merge record change) ↔ bond.Takes record := by
  cases bond <;> exact Iff.rfl

/-- There is one list in a parent. -/
theorem Bond.listing_eq (bond : Bond) (listing : Listing bond.parentKind) :
    listing = bond.listing := by
  cases bond <;> cases listing <;> rfl

namespace Store

theorem recordAt_of_findOne_eq {old next : Store} {kind : RecordKind} {ns : Namespace} {id : String}
    (same : next.findOne ns (.byId id) = old.findOne ns (.byId id)) :
    next.recordAt kind ns id = old.recordAt kind ns id := by
  rw [recordAt, recordAt, same]

theorem recordAt_of_found {store : Store} {kind : RecordKind} {ns : Namespace} {c id : String}
    {document : Document} {record : kind.Carrier}
    (found : store.findOne ns (.byId id) = some document) (represents : document.Represents c record) :
    store.recordAt kind ns id = some record := by
  rw [recordAt, found, Option.bind_some, represents.decode_eq]
  rfl

theorem Regular.recordAt_eq_some {store : Store} (regular : store.Regular) {kind : RecordKind}
    (someone : kind ≠ .user) {c id : String} {record : kind.Carrier}
    (there : store.recordAt kind (kind.home c) id = some record) :
    ∃ document, store.findOne (kind.home c) (.byId id) = some document ∧
      document.Represents c record ∧ Record.id record = id := by
  cases found : store.findOne (kind.home c) (.byId id) with
  | none =>
    rw [recordAt, found] at there
    cases there
  | some document =>
    obtain ⟨other, represents, named⟩ := regular.of_findOne someone found
    cases (recordAt_of_found found represents).symm.trans there
    exact ⟨document, rfl, represents, named⟩

/-- A child whose key is free is not stored. -/
theorem not_holds_of_free {store : Store} {bond : Bond}
    (free : store.findOne bond.childNs (.byId bond.child) = none) : ¬ store.Holds bond := by
  rw [holds_iff, recordAt, free]
  rintro ⟨_, impossible, _⟩
  cases impossible

/-- The list of the parent with a key, if there is one. -/
def listAt (store : Store) {kind : RecordKind} (listing : Listing kind) (c id : String) :
    Option (List String) :=
  (store.recordAt kind (kind.home c) id).map listing.members

theorem lists_iff_listAt (store : Store) (bond : Bond) : store.Lists bond ↔
    ∃ ids, store.listAt bond.listing bond.course bond.parent = some ids ∧ bond.child ∈ ids := by
  rw [lists_iff]
  simp only [listAt, Bond.parentNs, Option.map_eq_some_iff]
  constructor
  · rintro ⟨record, there, member⟩
    exact ⟨_, ⟨record, there, rfl⟩, member⟩
  · rintro ⟨_, ⟨record, there, rfl⟩, member⟩
    exact ⟨record, there, member⟩

/-- The list of a parent, by its entry. -/
theorem Shelf.listAt_of_mem {kind : RecordKind} (listing : Listing kind) {store : Store} {c : String}
    {entries : List (Entry kind.Carrier)} (shelf : store.Shelf (kind.home c) entries)
    {entry : Entry kind.Carrier} (member : entry ∈ entries) :
    store.listAt listing c entry.key = some (listing.members entry.record) := by
  rw [listAt, shelf.recordAt_of_mem member]
  rfl

namespace Puts

variable {old next : Store} {kind : RecordKind} {c id : String} {document : Document}
  {record : kind.Carrier}

theorem recordAt_here (puts : old.Puts next (kind.home c) id document)
    (represents : document.Represents c record) :
    next.recordAt kind (kind.home c) id = some record :=
  recordAt_of_found puts.here represents

/-- The records under other keys, and at other places, are as before. -/
theorem recordAt_of_ne (puts : old.Puts next (kind.home c) id document) (other : RecordKind)
    {d key : String} (apart : ¬ (other.home d = kind.home c ∧ key = id)) :
    next.recordAt other (other.home d) key = old.recordAt other (other.home d) key :=
  recordAt_of_findOne_eq (puts.others _ _ apart)

theorem listAt_of_ne (puts : old.Puts next (kind.home c) id document) {other : RecordKind}
    (listing : Listing other) {d key : String} (apart : ¬ (other.home d = kind.home c ∧ key = id)) :
    next.listAt listing d key = old.listAt listing d key := by
  rw [listAt, listAt, puts.recordAt_of_ne other apart]

theorem lists_of_ne (puts : old.Puts next (kind.home c) id document) {bond : Bond}
    (apart : ¬ (bond.parentNs = kind.home c ∧ bond.parent = id)) :
    next.Lists bond ↔ old.Lists bond := by
  rw [lists_iff_listAt, lists_iff_listAt, puts.listAt_of_ne bond.listing apart]

theorem holds_of_ne (puts : old.Puts next (kind.home c) id document) {bond : Bond}
    (apart : ¬ (bond.childNs = kind.home c ∧ bond.child = id)) :
    next.Holds bond ↔ old.Holds bond := by
  rw [holds_iff, holds_iff, Bond.childNs, puts.recordAt_of_ne bond.childKind apart]

end Puts

/-! ### What creations and updates come to -/

/-- Nothing is taken away: documents stay where they are, or are written anew and count this, and no
child and no list entry is new but those given. -/
structure Grows (old next : Store) (bumps : Prop) (added pushed : Option Bond) : Prop where
  regular : next.Regular
  found : ∀ kind : RecordKind, kind ≠ .user → ∀ c id document,
    old.findOne (kind.home c) (.byId id) = some document →
    ∃ now, next.findOne (kind.home c) (.byId id) = some now ∧
      (now = document ∨ bumps ∧ now.get? versionKey = some (.int64 (document.version + 1)))
  holds : ∀ bond, next.Holds bond ↔ old.Holds bond ∨ added = some bond
  lists : ∀ bond, next.Lists bond ↔ old.Lists bond ∨ pushed = some bond
  /-- A parent that is new is a child that was added, and has an empty list. -/
  parents : ∀ {kind : RecordKind} (listing : Listing kind) (c id : String),
    old.listAt listing c id = none → next.listAt listing c id = none ∨
      next.listAt listing c id = some [] ∧
        ∃ bond, added = some bond ∧ bond.childNs = kind.home c ∧ bond.child = id
  /-- A list that is longer was so by the child that was pushed. -/
  longer : ∀ {kind : RecordKind} (listing : Listing kind) (c id : String) (before : List String),
    old.listAt listing c id = some before → next.listAt listing c id = some before ∨
      ∃ bond, pushed = some bond ∧ next.listAt listing c id = some (before ++ [bond.child]) ∧
        (bond.child ∈ before → old.Lists bond)

namespace Alike

variable {old next : Store}

theorem recordAt_eq (alike : old.Alike next) (kind : RecordKind) (ns : Namespace) (id : String) :
    next.recordAt kind ns id = old.recordAt kind ns id :=
  recordAt_of_findOne_eq (alike.found ns id)

theorem listAt_eq (alike : old.Alike next) {kind : RecordKind} (listing : Listing kind)
    (c id : String) : next.listAt listing c id = old.listAt listing c id := by
  rw [listAt, listAt, alike.recordAt_eq]

theorem grows (alike : old.Alike next) (bumps : Prop) : old.Grows next bumps none none where
  regular := alike.regular
  found kind _ c id document there := ⟨document, (alike.found _ _).trans there, .inl rfl⟩
  holds bond := by simp [holds_iff, alike.recordAt_eq]
  lists bond := by simp [lists_iff, alike.recordAt_eq]
  parents listing c id nobody := .inl ((alike.listAt_eq listing c id).trans nobody)
  longer listing c id before there := .inl ((alike.listAt_eq listing c id).trans there)

end Alike

variable {old next : Store}

/-- A child that was stored under a free key is there now, and nothing lists it yet. -/
theorem grows_of_adoption {bond : Bond} {record : bond.childKind.Carrier} {document : Document}
    (puts : old.Puts next bond.childNs bond.child document)
    (represents : document.Represents bond.course record) (takes : bond.Takes record)
    (childless : ∀ listing : Listing bond.childKind, listing.members record = [])
    (free : old.findOne bond.childNs (.byId bond.child) = none) :
    old.Grows next False (some bond) none := by
  have absent : old.recordAt bond.childKind bond.childNs bond.child = none := by
    rw [recordAt, free]
    rfl
  have here : next.recordAt bond.childKind bond.childNs bond.child = some record :=
    puts.recordAt_here represents
  have empty : ∀ {kind : RecordKind} (listing : Listing kind) {d : String},
      kind.home d = bond.childNs → old.listAt listing d bond.child = none ∧
        next.listAt listing d bond.child = some [] := by
    intro kind listing d ns
    cases RecordKind.eq_of_home_eq ns
    rw [listAt, listAt, ns, absent, here, Option.map_some, childless]
    exact ⟨rfl, rfl⟩
  constructor
  case regular => exact puts.regular
  case found =>
    intro kind someone c id document there
    refine ⟨document, (puts.others _ _ ?_).trans there, .inl rfl⟩
    rintro ⟨ns, rfl⟩
    rw [ns, free] at there
    cases there
  case holds =>
    intro other
    by_cases there : other.childNs = bond.childNs ∧ other.child = bond.child
    · obtain ⟨ns, child⟩ := there
      have holds : next.Holds bond := (holds_iff _ _).mpr ⟨record, here, takes⟩
      have unheld : ¬ old.Holds other := not_holds_of_free (by rw [ns, child, free])
      rw [or_iff_right unheld]
      constructor
      · exact fun held => congrArg some (eq_of_holds ns child holds held).symm
      · rintro ⟨⟩
        exact holds
    · have different : some bond ≠ some other := by
        rintro ⟨⟩
        exact there ⟨rfl, rfl⟩
      rw [puts.holds_of_ne there, or_iff_left different]
  case lists =>
    intro other
    rw [or_iff_left (Option.some_ne_none _).symm]
    by_cases there : other.parentNs = bond.childNs ∧ other.parent = bond.child
    · obtain ⟨before, after⟩ := empty other.listing there.1
      rw [lists_iff_listAt, lists_iff_listAt, there.2, before, after]
      simp
    · exact puts.lists_of_ne there
  case parents =>
    intro kind listing c id nobody
    by_cases there : kind.home c = bond.childNs ∧ id = bond.child
    · obtain ⟨ns, rfl⟩ := there
      exact .inr ⟨(empty listing ns).2, bond, rfl, ns.symm, rfl⟩
    · exact .inl ((puts.listAt_of_ne listing there).trans nobody)
  case longer =>
    intro kind listing c id before there
    refine .inl ((puts.listAt_of_ne listing ?_).trans there)
    rintro ⟨ns, rfl⟩
    rw [(empty listing ns).1] at there
    cases there

section Rewriting

variable {kind : RecordKind} {c id : String} {document now : Document}
  (found : old.findOne (kind.home c) (.byId id) = some document)
  (puts : old.Puts next (kind.home c) id now)
  (counted : now.get? versionKey = some (.int64 (document.version + 1)))

include found puts counted

/-- A document that was written anew counts this, and the others stay. -/
theorem found_of_rewriting {other : RecordKind} {d key : String} {there : Document}
    (known : old.findOne (other.home d) (.byId key) = some there) :
    ∃ now, next.findOne (other.home d) (.byId key) = some now ∧
      (now = there ∨ True ∧ now.get? versionKey = some (.int64 (there.version + 1))) := by
  by_cases here : other.home d = kind.home c ∧ key = id
  · obtain ⟨ns, rfl⟩ := here
    rw [ns] at known ⊢
    cases found.symm.trans known
    exact ⟨now, puts.here, .inr ⟨trivial, counted⟩⟩
  · exact ⟨there, (puts.others _ _ here).trans known, .inl rfl⟩

/-- A record that an update was merged into has its parent and its list as before. -/
theorem grows_of_merge {record change : kind.Carrier} (before : document.Represents c record)
    (after : now.Represents c (merge record change)) :
    old.Grows next True none none ∧ ∀ {other : RecordKind} (listing : Listing other) (d key : String),
      next.listAt listing d key = old.listAt listing d key := by
  have was : old.recordAt kind (kind.home c) id = some record := recordAt_of_found found before
  have is : next.recordAt kind (kind.home c) id = some (merge record change) :=
    puts.recordAt_here after
  have lists : ∀ {other : RecordKind} (listing : Listing other) (d key : String),
      next.listAt listing d key = old.listAt listing d key := by
    intro other listing d key
    by_cases here : other.home d = kind.home c ∧ key = id
    · obtain ⟨ns, rfl⟩ := here
      cases RecordKind.eq_of_home_eq ns
      rw [listAt, listAt, ns, was, is, Option.map_some, Option.map_some, listing.members_merge]
    · exact puts.listAt_of_ne listing here
  refine ⟨⟨puts.regular, fun _ _ _ _ _ => found_of_rewriting found puts counted, fun bond => ?_,
    fun bond => ?_, fun listing d key nobody => .inl ((lists listing d key).trans nobody),
    fun listing d key _ there => .inl ((lists listing d key).trans there)⟩, lists⟩
  · rw [or_iff_left nofun]
    by_cases here : bond.childNs = kind.home c ∧ bond.child = id
    · obtain ⟨ns, rfl⟩ := here
      cases RecordKind.eq_of_home_eq ns
      rw [holds_iff, holds_iff, ns, was, is]
      simp [bond.takes_merge]
    · exact puts.holds_of_ne here
  · rw [or_iff_left nofun, lists_iff_listAt, lists_iff_listAt, lists]

end Rewriting

/-- A child that was pushed is on the list of its parent, and all else is as before. -/
theorem grows_of_push {bond : Bond} {document now : Document} {record : bond.parentKind.Carrier}
    (found : old.findOne bond.parentNs (.byId bond.parent) = some document)
    (puts : old.Puts next bond.parentNs bond.parent now)
    (counted : now.get? versionKey = some (.int64 (document.version + 1)))
    (before : document.Represents bond.course record)
    (after : now.Represents bond.course (bond.listing.edited .push bond.child record)) :
    old.Grows next True none (some bond) := by
  have was : old.recordAt bond.parentKind bond.parentNs bond.parent = some record :=
    recordAt_of_found found before
  have is : next.recordAt bond.parentKind bond.parentNs bond.parent =
      some (bond.listing.edited .push bond.child record) := puts.recordAt_here after
  constructor
  case regular => exact puts.regular
  case found => exact fun _ _ _ _ _ => found_of_rewriting found puts counted
  case holds =>
    intro other
    rw [or_iff_left nofun]
    by_cases here : other.childNs = bond.parentNs ∧ other.child = bond.parent
    · obtain ⟨ns, child⟩ := here
      rw [holds_iff, holds_iff]
      cases bond <;> cases other
      case lesson.lesson | lesson.content | content.content => cases RecordKind.eq_of_home_eq ns
      case content.lesson =>
        rw [ns, child]
        exact iff_of_true ⟨_, is, trivial⟩ ⟨_, was, trivial⟩
    · exact puts.holds_of_ne here
  case lists =>
    intro other
    by_cases here : other.parentNs = bond.parentNs ∧ other.parent = bond.parent
    · obtain ⟨ns, parent⟩ := here
      have same_iff : some bond = some other ↔ other.child = bond.child := by
        rw [Option.some.injEq, eq_comm]
        exact ⟨congrArg Bond.child, Bond.eq_of_child_eq ns parent⟩
      rw [lists_iff_of_parent ns parent, lists_iff_of_parent ns parent, was, is, same_iff]
      simp [Listing.members_edited, Membership.edited]
    · have different : some bond ≠ some other := by
        rintro ⟨⟩
        exact here ⟨rfl, rfl⟩
      rw [puts.lists_of_ne here, or_iff_left different]
  case parents =>
    intro kind listing d key nobody
    refine .inl ((puts.listAt_of_ne listing ?_).trans nobody)
    rintro ⟨ns, rfl⟩
    cases RecordKind.eq_of_home_eq ns
    rw [listAt, ns] at nobody
    cases was.symm.trans (Option.map_eq_none_iff.mp nobody)
  case longer =>
    intro kind listing d key ids there
    by_cases here : kind.home d = bond.parentNs ∧ key = bond.parent
    · obtain ⟨ns, rfl⟩ := here
      cases RecordKind.eq_of_home_eq ns
      cases bond.listing_eq listing
      have members : bond.listing.members record = ids := by
        rw [listAt, ns] at there
        exact Option.some.inj ((congrArg (Option.map _) was).symm.trans there)
      refine .inr ⟨bond, rfl, ?_, fun member => (lists_iff _ _).mpr ⟨record, was, members ▸ member⟩⟩
      rw [listAt, ns]
      refine (congrArg (Option.map _) is).trans (congrArg some ?_)
      rw [Listing.members_edited, members, Membership.edited]
    · exact .inl ((puts.listAt_of_ne listing here).trans there)

end Store

end Syllabus
