/-
**Users stay unique.**

A new user must have a name, an e-mail address and a phone number that nobody has; an update is checked
only for the values that it changes. Both together keep the users apart, whatever is requested.

* `User.Apart` — users that share nothing that identifies them;
* `User.collision?` — the first value of a new user that somebody has; `User.Taking` — an update that takes
  a value from others;
* `User.validate_page`, `User.update_page` — the checks of the records service are these;
* `User.Distinct.register`, `User.Distinct.rewrite` — each keeps the users apart;
* `Store.Registers` — the users of a store; `Incoming.keeps_apart` — every request keeps them apart;
* **`users_stay_unique`** — so do any number of requests, and who asks for a value that is taken is told.
-/

import Mathlib.Data.List.Nodup
import Mathlib.Data.List.Pairwise
import Syllabus.Proofs.Isolation
import Syllabus.Proofs.Refusal

namespace Syllabus

/-! ### What tells users apart -/

namespace User

/-- The users share neither the name nor an e-mail address or a phone number. -/
structure Apart (first second : User) : Prop where
  userName : first.userName ≠ second.userName
  email : first.email ≠ "" → first.email ≠ second.email
  phone : first.phone ≠ "" → first.phone ≠ second.phone

/-- The fields by which a user can be reached. -/
def contacts : List (String × (User → String)) :=
  [("email", email), ("phone", phone)]

/-- The fields that a new user may share with nobody, in the order of the checks. -/
def identifying : List (String × (User → String)) :=
  ("userName", userName) :: contacts

/-- The user has a value that is set and that one of these has, too. -/
def Shares (users : List User) (value : User → String) (user : User) : Prop :=
  value user ≠ "" ∧ ∃ other ∈ users, value user = value other

instance (users : List User) (value : User → String) (user : User) :
    Decidable (Shares users value user) :=
  inferInstanceAs (Decidable (_ ∧ _))

/-- The first value of a new user that somebody has, under the name of its field. -/
def collision? (users : List User) (user : User) : Option (String × String) :=
  (identifying.find? fun field => Shares users field.2 user).map fun field =>
    (field.1, field.2 user)

/-- An update changes the e-mail address or the phone number of a user to that of another one. -/
def Taking (users : List User) (stored updated : User) : Prop :=
  ∃ field ∈ contacts, field.2 updated ≠ field.2 stored ∧
    Shares (users.filter (·.userName ≠ stored.userName)) field.2 updated

/-- No two users share what tells them apart. -/
def Distinct (users : List User) : Prop :=
  users.Pairwise Apart

theorem Apart.symm {first second : User} (apart : Apart first second) : Apart second first where
  userName := apart.userName.symm
  email set same := apart.email (same ▸ set) same.symm
  phone set same := apart.phone (same ▸ set) same.symm

instance : Std.Symm Apart := ⟨fun _ _ => Apart.symm⟩

/-- Users that collide with nobody are apart from all. -/
theorem apart_of_collision?_eq_none {users : List User} {user : User} (named : user.userName ≠ "")
    (free : collision? users user = none) : ∀ other ∈ users, Apart user other := by
  rw [collision?, Option.map_eq_none_iff, List.find?_eq_none] at free
  intro other member
  have unshared : ∀ field ∈ identifying, field.2 user ≠ "" → field.2 user ≠ field.2 other :=
    fun field listed set same =>
      of_decide_eq_false (Bool.eq_false_iff.mpr (free field listed)) ⟨set, other, member, same⟩
  exact ⟨unshared ("userName", userName) (by simp [identifying]) named,
    unshared ("email", email) (by simp [identifying, contacts]),
    unshared ("phone", phone) (by simp [identifying, contacts])⟩

namespace Distinct

variable {users : List User} {stored updated user : User}

theorem names (distinct : Distinct users) : (users.map userName).Nodup :=
  List.pairwise_map.mpr (distinct.imp Apart.userName)

/-- Who has the name of a user is this user. -/
theorem eq_of_userName_eq (distinct : Distinct users) {first second : User} (member : first ∈ users)
    (member' : second ∈ users) (same : first.userName = second.userName) : first = second :=
  List.inj_on_of_nodup_map distinct.names member member' same

/-- **A new user that collides with nobody keeps the users apart.** -/
theorem register (distinct : Distinct users) (named : user.userName ≠ "")
    (free : collision? users user = none) : Distinct (users ++ [user]) := by
  refine List.pairwise_append.mpr ⟨distinct, List.pairwise_singleton _ _, ?_⟩
  intro other member newcomer here
  rw [List.mem_singleton.mp here]
  exact (apart_of_collision?_eq_none named free other member).symm

/-- An update that takes nothing leaves its user apart from the others. A value that stays the same is
not checked, but it was kept apart before. -/
theorem apart_updated (distinct : Distinct users) (member : stored ∈ users)
    (same : updated.userName = stored.userName) (free : ¬ Taking users stored updated) :
    ∀ other ∈ users, other.userName ≠ stored.userName → Apart updated other := by
  intro other member' different
  have before : Apart stored other :=
    List.Pairwise.forall distinct member member' fun same =>
      different (congrArg userName same).symm
  have kept : ∀ field ∈ contacts, (field.2 stored ≠ "" → field.2 stored ≠ field.2 other) →
      field.2 updated ≠ "" → field.2 updated ≠ field.2 other := by
    intro field listed before set shared
    by_cases unchanged : field.2 updated = field.2 stored
    · exact before (unchanged ▸ set) (unchanged ▸ shared)
    · refine free ⟨field, listed, unchanged, set, other, ?_, shared⟩
      exact List.mem_filter.mpr ⟨member', by simpa using different⟩
  exact ⟨fun names => different (names.symm.trans same),
    kept ("email", email) (by simp [contacts]) before.email,
    kept ("phone", phone) (by simp [contacts]) before.phone⟩

/-- **An update that takes nothing from others keeps the users apart.** -/
theorem rewrite (distinct : Distinct users) (member : stored ∈ users)
    (same : updated.userName = stored.userName) (free : ¬ Taking users stored updated) :
    Distinct (users.map fun user => if user.userName = stored.userName then updated else user) := by
  have apart := distinct.apart_updated member same free
  refine List.pairwise_map.mpr (List.Pairwise.imp_of_mem ?_ distinct)
  intro first second member member' before
  by_cases here : first.userName = stored.userName
  · have there : second.userName ≠ stored.userName := fun there =>
      before.userName (here.trans there.symm)
    rw [if_pos here, if_neg there]
    exact apart second member' there
  · by_cases there : second.userName = stored.userName
    · rw [if_neg here, if_pos there]
      exact (apart first member here).symm
    · rw [if_neg here, if_neg there]
      exact before

end Distinct

/-! ### The checks of the records service -/

/-- The users as the page of their namespace. -/
def page (users : List User) : Page User :=
  users.map fun user => (user.userName, user)

section

variable {users : List User} {stored change user : User}

theorem lookup_page (name : String) :
    (page users).lookup name = users.find? (·.userName == name) := by
  induction users with
  | nil => rfl
  | cons first rest ih =>
    rw [page, List.map_cons, List.lookup_cons, List.find?_cons]
    by_cases here : first.userName = name
    · simp [here]
    · rw [beq_false_of_ne here, beq_false_of_ne (Ne.symm here)]
      exact ih

theorem Distinct.lookup_page (distinct : Distinct users) (member : stored ∈ users) :
    (page users).lookup stored.userName = some stored := by
  rw [User.lookup_page]
  cases found : users.find? (·.userName == stored.userName) with
  | none =>
    have missing := List.find?_eq_none.mp found stored member
    simp at missing
  | some other =>
    have same : other.userName = stored.userName := by simpa using List.find?_some found
    rw [distinct.eq_of_userName_eq (List.mem_of_find?_eq_some found) member same]

theorem page_injective {users others : List User} (same : page users = page others) :
    users = others := by
  have records := congrArg (List.map Prod.snd) same
  simpa [page, Function.comp_def] using records

/-- Whoever has a value under one of these fields has it in this field. -/
theorem mem_uniqueFields_iff {field : String × (User → String)} (listed : field ∈ contacts)
    (value : String) (user : User) :
    (field.1, value) ∈ Record.uniqueFields user ↔ value = field.2 user := by
  have fields : Record.uniqueFields user = [("email", user.email), ("phone", user.phone)] := rfl
  rw [fields]
  rcases List.mem_cons.mp listed with rfl | listed
  · simp
  · rw [List.mem_singleton.mp listed]
    simp

/-- The clash of some of the unique values of a user, by field. -/
theorem clash?_page (exclude : Option String) (picked : String × String → Bool) :
    (page users).clash? exclude ((Record.uniqueFields user).filter picked) =
      (contacts.find? fun field => picked (field.1, field.2 user) ∧
        ∃ other ∈ users, some other.userName ≠ exclude ∧ field.2 user = field.2 other).map
          fun field => (field.1, field.2 user) := by
  have fields : Record.uniqueFields user = contacts.map fun field => (field.1, field.2 user) := rfl
  rw [Page.clash?, List.find?_filter, fields, List.find?_map]
  congr 1
  refine List.find?_congr fun field listed => ?_
  rw [Bool.eq_iff_iff]
  simp [page, mem_uniqueFields_iff listed]

/-- **A new user passes the check if it collides with nobody**, and else is told of the first one. -/
theorem validate_page (named : user.userName ≠ "") :
    Page.validate user (page users) =
      match collision? users user with
      | some (field, value) => .error (.conflict field value)
      | none => .ok () := by
  have name : (users.find? (·.userName == user.userName)).isSome =
      decide (Shares users userName user) := by
    rw [List.isSome_find?, Bool.eq_iff_iff]
    simp [Shares, named, eq_comm (a := user.userName)]
  have others : (page users).clash? none (Page.claims user) =
      (contacts.find? fun field => Shares users field.2 user).map
        fun field => (field.1, field.2 user) := by
    refine (clash?_page none fun claim => claim.2 ≠ "").trans (congrArg _ ?_)
    refine List.find?_congr fun field _ => ?_
    rw [decide_eq_decide]
    simp [Shares]
  rw [Page.validate, show Record.id user = user.userName from rfl, lookup_page, others, collision?,
    identifying, List.find?_cons, ← name]
  cases users.find? (·.userName == user.userName) <;> rfl

/-- The check of an update finds something exactly if this takes a value from others. -/
theorem clash?_update_isSome_iff {updated : User} {name : String} (named : name = stored.userName) :
    ((page users).clash? (some name)
      ((Page.claims updated).filter (· ∉ Record.uniqueFields stored))).isSome ↔
      Taking users stored updated := by
  rw [Page.claims, List.filter_filter, clash?_page, Option.isSome_map, List.find?_isSome]
  refine exists_congr fun field => and_congr_right fun listed => ?_
  rw [decide_eq_true_eq, named]
  simp [Shares, mem_uniqueFields_iff listed, and_assoc]

theorem changeAt_page {updated : User} {name : String} (named : updated.userName = name) :
    (page users).changeAt name (fun _ => updated) =
      page (users.map fun user => if user.userName = name then updated else user) := by
  simp only [page, Page.changeAt, List.map_map]
  refine List.map_congr_left fun user _ => ?_
  by_cases here : user.userName = name
  · simp only [Function.comp, if_pos here]
    exact Prod.ext (here.trans named.symm) rfl
  · simp only [Function.comp, if_neg here]

/-- **An update of a user is refused if it takes a value from others**, and else merged. -/
theorem update_page (distinct : Distinct users) (member : stored ∈ users)
    (named : change.userName = stored.userName) :
    (Taking users stored (merge stored change) ∧ ∃ field value,
      Page.update usersAt change (page users) = (.error (.conflict field value), page users)) ∨
    (¬ Taking users stored (merge stored change) ∧
      Page.update usersAt change (page users) = (.ok (merge stored change), page (users.map fun user =>
        if user.userName = stored.userName then merge stored change else user))) := by
  have keyed : Record.id change = stored.userName := named
  have found : (page users).lookup (Record.id change) = some stored := by
    rw [keyed]
    exact distinct.lookup_page member
  have written : (page users).changeAt (Record.id change) (fun _ => merge stored change) =
      page (users.map fun user =>
        if user.userName = stored.userName then merge stored change else user) := by
    rw [keyed]
    exact changeAt_page rfl
  simp only [Page.update, found, ← clash?_update_isSome_iff keyed, written]
  cases (page users).clash? _ _ with
  | none => exact .inr ⟨by simp, rfl⟩
  | some claim => exact .inl ⟨rfl, claim.1, claim.2, rfl⟩

end

end User

/-! ### The users of a store -/

namespace Store

/-- The documents of the namespace of the users are those of these users, each with a version. -/
def Registers (store : Store) (users : List User) : Prop :=
  ∃ entries : List (Entry User), store.Shelf usersAt entries ∧ entries.map Entry.record = users

namespace Registers

variable {store : Store} {users left : List User} {stored change user : User}

/-- What agrees with its counterpart on a page answers as on the page of the users, and leaves the users
of the page that this leaves. -/
theorem agree {α : Type} {spare : ObjectId} {program : StoreProgram StoreError α}
    {answer : Except StoreError α} (registers : store.Registers users)
    (work : Page User → Except StoreError α × Page User)
    (agrees : ∀ entries : List (Entry User), store.Shelf usersAt entries →
      store.Agrees spare usersAt program (work (Entry.page entries)))
    (works : work (User.page users) = (answer, User.page left)) :
    (program.run (respond spare) store).1 = answer ∧
      (program.run (respond spare) store).2.Registers left := by
  have paged : ∀ entries : List (Entry User),
      Entry.page entries = User.page (entries.map Entry.record) := by
    intro entries
    simp only [Entry.page, User.page, List.map_map]
    rfl
  obtain ⟨entries, shelf, rfl⟩ := registers
  obtain ⟨now, answers, turned, pages⟩ := agrees entries shelf
  rw [paged entries, works] at answers pages
  exact ⟨answers, now, turned.shelf, User.page_injective ((paged now).symm.trans pages)⟩

/-- The check of a new user. -/
theorem checkUnique (registers : store.Registers users) (spare : ObjectId)
    (named : user.userName ≠ "") :
    ((Records.checkUnique user).run (respond spare) store).1 =
        (match User.collision? users user with
          | some (field, value) => .error (.conflict field value)
          | none => .ok ()) ∧
      ((Records.checkUnique user).run (respond spare) store).2.Registers users :=
  registers.agree (fun page => (Page.validate user page, page))
    (fun entries shelf => @Records.agrees_validate .user store usersAt entries spare shelf user rfl)
    (congrArg (·, _) (User.validate_page named))

/-- A user that collides with nobody is stored. -/
theorem create (registers : store.Registers users) (spare : ObjectId) (named : user.userName ≠ "")
    (free : User.collision? users user = none) :
    ((Records.create user).run (respond spare) store).1 = .ok () ∧
      ((Records.create user).run (respond spare) store).2.Registers (users ++ [user]) := by
  have works : Page.create usersAt user (User.page users) = (.ok (), User.page (users ++ [user])) := by
    have nobody : (User.page users).lookup user.userName = none := by
      rw [User.lookup_page, List.find?_eq_none]
      intro other member
      simpa using (User.apart_of_collision?_eq_none named free other member).userName.symm
    rw [Page.create, show Record.id user = user.userName from rfl, nobody]
    simp [User.page]
  exact registers.agree (Page.create usersAt user)
    (fun entries shelf => @Records.agrees_create .user store usersAt entries spare shelf user rfl) works

/-- An update of a user. -/
theorem update (registers : store.Registers users) (spare : ObjectId)
    (distinct : User.Distinct users) (member : stored ∈ users)
    (named : change.userName = stored.userName) :
    (User.Taking users stored (merge stored change) ∧
      (∃ field value, ((Records.update change).run (respond spare) store).1 =
        .error (.conflict field value)) ∧
      ((Records.update change).run (respond spare) store).2.Registers users) ∨
    (¬ User.Taking users stored (merge stored change) ∧
      ((Records.update change).run (respond spare) store).1 = .ok (merge stored change) ∧
      ((Records.update change).run (respond spare) store).2.Registers (users.map fun user =>
        if user.userName = stored.userName then merge stored change else user)) := by
  have agrees := fun entries shelf =>
    @Records.agrees_update .user store usersAt entries spare shelf change rfl
  rcases User.update_page distinct member named with
    ⟨taking, field, value, refused⟩ | ⟨free, accepted⟩
  · obtain ⟨answer, left⟩ := registers.agree (Page.update usersAt change) agrees refused
    exact .inl ⟨taking, ⟨field, value, answer⟩, left⟩
  · exact .inr ⟨free, registers.agree (Page.update usersAt change) agrees accepted⟩

/-- An update of nobody. -/
theorem update_unknown (registers : store.Registers users) (spare : ObjectId) (change : User)
    (unknown : ∀ user ∈ users, user.userName ≠ change.userName) :
    ((Records.update change).run (respond spare) store).1 =
        .error (.notFound usersAt change.userName) ∧
      ((Records.update change).run (respond spare) store).2.Registers users := by
  have missing : (User.page users).lookup change.userName = none := by
    rw [User.lookup_page, List.find?_eq_none]
    intro user member
    simpa using unknown user member
  refine registers.agree (Page.update usersAt change)
    (fun entries shelf => @Records.agrees_update .user store usersAt entries spare shelf change rfl) ?_
  rw [Page.update, show Record.id change = change.userName from rfl, missing]

/-- A deletion leaves some of the users. -/
theorem delete (registers : store.Registers users) (spare : ObjectId) (name : String) :
    ∃ left, left.Sublist users ∧
      ((Records.delete (User.withId name)).run (respond spare) store).2.Registers left := by
  have agrees := fun entries shelf =>
    @Records.agrees_delete .user store usersAt entries spare shelf (User.withId name) rfl
  have works : ∃ left, left.Sublist users ∧ (Page.delete usersAt name (User.page users)).2 =
      User.page left := by
    rw [Page.delete]
    cases (User.page users).lookup name with
    | none => exact ⟨users, .refl users, rfl⟩
    | some user =>
      refine ⟨users.eraseP (·.userName == name), List.eraseP_sublist, ?_⟩
      rw [User.page, User.page, List.eraseP_map]
      rfl
  obtain ⟨left, fewer, works⟩ := works
  exact ⟨left, fewer, (registers.agree (Page.delete usersAt name) agrees (Prod.ext rfl works)).2⟩

end Registers

end Store

/-! ### Requests for users -/

namespace Store.Registers

variable {store : Store} {users : List User} {stored change user : User} {request : Http.Request}

/-- A user with a name is registered, or told of the first collision. -/
theorem registerUser (registers : store.Registers users) (spare : ObjectId)
    (read : Body.decode request = .ok user) (named : user.userName ≠ "") :
    (User.collision? users user = none ∧
      ((Handler.registerUser request).run (respond spare) store).1 = .ok (.created user) ∧
      ((Handler.registerUser request).run (respond spare) store).2.Registers (users ++ [user])) ∨
    (∃ field value, User.collision? users user = some (field, value) ∧
      ((Handler.registerUser request).run (respond spare) store).1 =
        .error (.ofStore (.conflict field value)) ∧
      ((Handler.registerUser request).run (respond spare) store).2.Registers users) := by
  have handler : Handler.registerUser request = (Handler.records (Records.checkUnique user) >>= fun _ =>
      Handler.records (Records.create user) >>= fun _ => .done (.created user)) :=
    (Handler.body_bind_of_ok read).trans (if_neg (by simpa using named))
  obtain ⟨checked, registers⟩ := registers.checkUnique spare named
  rw [handler, Handler.run_records_bind]
  generalize (Records.checkUnique user).run (respond spare) store = ran at checked registers
  obtain ⟨answer, next⟩ := ran
  cases checked
  cases free : User.collision? users user with
  | some collision => exact .inr ⟨collision.1, collision.2, rfl, rfl, registers⟩
  | none =>
    obtain ⟨created, registers⟩ := registers.create spare named free
    simp only [Handler.run_records_bind]
    generalize (Records.create user).run (respond spare) next = ran at created registers
    obtain ⟨answer, last⟩ := ran
    cases created
    exact .inl ⟨trivial, rfl, registers⟩

/-- An update of a user is merged into the user, or refused for what it takes from others. -/
theorem updateUser (registers : store.Registers users) (spare : ObjectId)
    (distinct : User.Distinct users) (member : stored ∈ users) (read : Body.decode request = .ok change) :
    (User.Taking users stored (merge stored change) ∧
      (∃ field value, ((Handler.updateUser request stored.userName).run (respond spare) store).1 =
        .error (.ofStore (.conflict field value))) ∧
      ((Handler.updateUser request stored.userName).run (respond spare) store).2.Registers users) ∨
    (¬ User.Taking users stored (merge stored change) ∧
      ((Handler.updateUser request stored.userName).run (respond spare) store).1 =
        .ok (.success (merge stored change)) ∧
      ((Handler.updateUser request stored.userName).run (respond spare) store).2.Registers
        (users.map fun user =>
          if user.userName = stored.userName then merge stored change else user)) := by
  let named := { change with userName := stored.userName }
  have handler : Handler.updateUser request stored.userName =
      (Handler.records (Records.update named) >>= fun user => .done (.success user)) :=
    Handler.body_bind_of_ok read
  -- The name of an update is not merged.
  have merged : merge stored named = merge stored change := rfl
  have updated := registers.update spare distinct member (show named.userName = stored.userName from rfl)
  rw [handler, Handler.run_records_bind]
  rw [merged] at updated
  generalize (Records.update named).run (respond spare) store = ran at updated ⊢
  obtain ⟨answer, next⟩ := ran
  rcases updated with ⟨taking, ⟨field, value, refused⟩, registers⟩ | ⟨free, accepted, registers⟩
  · cases refused
    exact .inl ⟨taking, ⟨field, value, rfl⟩, registers⟩
  · cases accepted
    exact .inr ⟨free, rfl, registers⟩

end Store.Registers

/-- The users of a store are apart from each other, and its courses are regular. -/
structure Store.KeepsApart (store : Store) (users : List User) : Prop where
  regular : store.Regular
  registers : store.Registers users
  distinct : User.Distinct users

namespace Handler

variable {backendName : String} {occasion : Occasion} {request : Http.Request} {verb : Verb}
  {route : Route} {program : StoreProgram ApiError Reply} {store : Store} {users : List User}

/-- **The handlers for users keep them apart.** -/
theorem keeps_apart (handled : handle backendName occasion request verb route = some program)
    (area : route.area = "user") (registers : store.Registers users)
    (distinct : User.Distinct users) (spare : ObjectId) :
    ∃ left, User.Distinct left ∧ (program.run (Store.respond spare) store).2.Registers left := by
  cases verb with
  | get =>
    rw [(reads_get handled).run_reads]
    exact ⟨users, distinct, registers⟩
  | post =>
    cases route with
    | users =>
      cases handled
      cases read : (Body.decode request : Except ApiError User) with
      | error error =>
        rw [registerUser, body_bind_of_error read]
        exact ⟨users, distinct, registers⟩
      | ok user =>
        by_cases named : user.userName = ""
        · have refused : registerUser request = .fail (.badRequest "userName is required") :=
            (body_bind_of_ok read).trans (if_pos (by simp [named]))
          rw [refused]
          exact ⟨users, distinct, registers⟩
        · rcases registers.registerUser spare read named with ⟨free, _, left⟩ | ⟨_, _, _, _, left⟩
          · exact ⟨_, distinct.register named free, left⟩
          · exact ⟨_, distinct, left⟩
    | _ => cases handled <;> simp [Route.area] at area
  | put =>
    cases route with
    | user userName =>
      cases handled
      cases read : (Body.decode request : Except ApiError User) with
      | error error =>
        rw [updateUser, body_bind_of_error read]
        exact ⟨users, distinct, registers⟩
      | ok change =>
        by_cases known : ∃ stored ∈ users, stored.userName = userName
        · obtain ⟨stored, member, rfl⟩ := known
          rcases registers.updateUser spare distinct member read with ⟨_, _, left⟩ | ⟨free, _, left⟩
          · exact ⟨_, distinct, left⟩
          · have same : (merge stored change).userName = stored.userName := rfl
            exact ⟨_, distinct.rewrite member same free, left⟩
        · let named := { change with userName := userName }
          have left := (registers.update_unknown spare named
            fun stored member same => known ⟨stored, member, same⟩).2
          rw [updateUser, body_bind_of_ok read, run_records_bind]
          generalize (Records.update named).run (Store.respond spare) store = ran at left
          obtain ⟨answer, next⟩ := ran
          exact ⟨users, distinct, by cases answer <;> exact left⟩
    | _ => cases handled <;> simp [Route.area] at area
  | delete =>
    cases route with
    | user userName =>
      cases handled
      obtain ⟨left, fewer, registers⟩ := registers.delete spare userName
      refine ⟨left, distinct.sublist fewer, ?_⟩
      rw [handle.done, run_records_bind]
      generalize (Records.delete (User.withId userName)).run (Store.respond spare) store = ran at registers
      obtain ⟨answer, next⟩ := ran
      cases answer <;> exact registers
    | _ => cases handled <;> simp [Route.area] at area

end Handler

namespace Incoming

variable {incoming : Incoming} {store : Store} {users : List User}

/-- **Every request keeps the users apart.** -/
theorem keeps_apart (apart : store.KeepsApart users) :
    ∃ left, (incoming.leaves store).KeepsApart left := by
  by_cases mine : incoming.area? = some "user"
  · obtain ⟨_, regular, _⟩ := own_users mine ⟨apart.regular, rfl⟩
    suffices registers : ∃ left, User.Distinct left ∧ (incoming.leaves store).Registers left from
      registers.imp fun left registers => ⟨regular, registers.2, registers.1⟩
    unfold leaves
    rcases incoming.handled_or_refused with ⟨verb, route, program, handled⟩ | ⟨response, refused⟩
    · have area : route.area = "user" := Option.some.inj (handled.area?_eq.symm.trans mine)
      rw [handled.answer_eq]
      exact Handler.keeps_apart handled.handler area apart.registers apart.distinct incoming.spare
    · rw [refused.answer]
      exact ⟨users, apart.distinct, apart.registers⟩
  · obtain ⟨regular, same⟩ := other_users mine ⟨apart.regular, rfl⟩
    obtain ⟨entries, shelf, records⟩ := apart.registers
    exact ⟨users, regular, ⟨entries, shelf.of_documents_eq same, records⟩, apart.distinct⟩

end Incoming

/-- The users stay apart, whatever is requested. -/
theorem Store.keeps_apart (traffic : List Incoming) :
    ∃ users, (Store.empty.after traffic).KeepsApart users := by
  have start : ∃ users, Store.empty.KeepsApart users :=
    ⟨[], regular_empty, ⟨[], .nil rfl, rfl⟩, List.Pairwise.nil⟩
  have keeps : ∀ (incoming : Incoming) store, (∃ users, store.KeepsApart users) →
      ∃ users, (incoming.leaves store).KeepsApart users := by
    rintro incoming store ⟨users, apart⟩
    exact Incoming.keeps_apart apart
  exact after_keeps keeps start traffic

namespace Incoming

variable {incoming : Incoming} {store : Store} {users : List User} {user stored : User}

/-- A new user with a name is refused exactly for a collision, and told of the first one. -/
theorem conflict_of_registration_iff (apart : store.KeepsApart users)
    (addressed : incoming.Addresses .post .users) (read : Body.decode incoming.request = .ok user)
    (named : user.userName ≠ "") :
    ((incoming.response store).status = 409 ↔ (User.collision? users user).isSome) ∧
      ∀ field value, User.collision? users user = some (field, value) →
        incoming.response store =
          incoming.dressed (ApiError.ofStore (.conflict field value)).response := by
  have handled : incoming.Handled .post .users (Handler.registerUser incoming.request) :=
    { addressed with handler := rfl }
  unfold response
  rw [handled.answer_eq]
  rcases apart.registers.registerUser incoming.spare read named with
    ⟨free, answer, _⟩ | ⟨field, value, collides, answer, _⟩
  · have status : (Service.respond (.ok (.created user))).status = 201 := rfl
    rw [answer, free, status_dressed, status]
    simp
  · have status : (Service.respond (.error (.ofStore (.conflict field value)))).status = 409 := rfl
    rw [answer, collides, status_dressed, status]
    refine ⟨by simp, fun other held same => ?_⟩
    cases same
    rfl

/-- An update of a user is refused exactly for what it takes from others. -/
theorem conflict_of_update_iff (apart : store.KeepsApart users) (member : stored ∈ users)
    (addressed : incoming.Addresses .put (.user stored.userName)) :
    (incoming.response store).status = 409 ↔ ∃ change : User,
      Body.decode incoming.request = .ok change ∧ User.Taking users stored (merge stored change) := by
  have handled : incoming.Handled .put (.user stored.userName)
      (Handler.updateUser incoming.request stored.userName) := { addressed with handler := rfl }
  unfold response
  rw [handled.answer_eq, status_dressed]
  cases read : (Body.decode incoming.request : Except ApiError User) with
  | error error =>
    obtain ⟨message, rfl, _⟩ := Body.eq_invalidJson_of_decode read
    have status : (Service.respond (.error (.invalidJson message))).status = 400 := rfl
    rw [Handler.updateUser, Handler.body_bind_of_error read, Program.run, status]
    simp
  | ok change =>
    rcases apart.registers.updateUser incoming.spare apart.distinct member read with
      ⟨taking, ⟨field, value, answer⟩, _⟩ | ⟨free, answer, _⟩
    · have status : (Service.respond (.error (.ofStore (.conflict field value)))).status = 409 := rfl
      rw [answer, status]
      simpa using taking
    · have status : (Service.respond (.ok (.success (merge stored change)))).status = 200 := rfl
      rw [answer, status]
      simpa using free

end Incoming

/-- **Users are unique.** After any requests, one after another, on a store that was empty at first, no two
users share a name, an e-mail address or a phone number that is set. A new user whose body names it is
refused exactly if somebody has one of these, and told of the first one; an update of a user is refused
exactly if it changes the e-mail address or the phone number to that of another user. -/
theorem users_stay_unique (traffic : List Incoming) :
    let store := Store.empty.after traffic
    ∃ users : List User, store.Registers users ∧ User.Distinct users ∧
      (∀ (incoming : Incoming) (user : User), incoming.Addresses .post .users →
        Body.decode incoming.request = .ok user → user.userName ≠ "" →
        ((incoming.response store).status = 409 ↔ (User.collision? users user).isSome) ∧
        ∀ field value, User.collision? users user = some (field, value) →
          incoming.response store =
            incoming.dressed (ApiError.ofStore (.conflict field value)).response) ∧
      (∀ (incoming : Incoming) (stored : User), stored ∈ users →
        incoming.Addresses .put (.user stored.userName) →
        ((incoming.response store).status = 409 ↔ ∃ change : User,
          Body.decode incoming.request = .ok change ∧
            User.Taking users stored (merge stored change))) := by
  intro store
  obtain ⟨users, apart⟩ := Store.keeps_apart traffic
  exact ⟨users, apart.registers, apart.distinct,
    fun _ _ addressed => Incoming.conflict_of_registration_iff apart addressed,
    fun _ _ member addressed => Incoming.conflict_of_update_iff apart member addressed⟩

end Syllabus
