/-
**Requests over the wire, one after another.**

* `Handler.run_records_bind` — a handler that works on records, run step by step;
* `Incoming` — a request with all that it draws from outside; `Incoming.answer` — its response, and the
  store that it leaves;
* `Incoming.Addresses`, `Incoming.Handled` — what a request is for, and the handler that it reaches;
* `Incoming.handled_or_refused` — one that reaches none gets the same response from every store and leaves
  it;
* `Store.after`, `Store.exchanges` — the store after some requests, and what each of them got;
* **`Store.exchanges_filter`** — some of the requests get what they get without the others, if the others
  change nothing that their responses depend on.
-/

import Syllabus.Proofs.Membership

namespace Syllabus

/-! ### Parameters -/

/-- A route that is made of a parameter: the text of the parameter decodes. -/
theorem Route.parameter_of_bind {name value : String} {next : String → Except String Route}
    {route : Route} (made : decodeParameter name value >>= next = .ok route) :
    ∃ text, Text.percentDecoded? value = some text ∧ next text = .ok route := by
  unfold decodeParameter at made
  split at made
  · next text decoded => exact ⟨text, decoded, made⟩
  · cases made

/-! ### Handlers, step by step -/

namespace Handler

variable {α : Type} [Codec α] {request : Http.Request} {next : α → StoreProgram ApiError Reply}

theorem body_bind_of_ok {value : α} (read : Body.decode request = .ok value) :
    (body request >>= next) = next value := by
  rw [body, read]
  rfl

theorem body_bind_of_error {error : ApiError}
    (fault : (Body.decode request : Except ApiError α) = .error error) :
    (body request >>= next) = .fail error := by
  rw [body, fault]
  rfl

/-- A run of a program on records, and of what follows. -/
theorem run_records_bind {α : Type} (program : StoreProgram StoreError α)
    (next : α → StoreProgram ApiError Reply) (spare : ObjectId) (store : Store) :
    (records program >>= next).run (Store.respond spare) store =
      match program.run (Store.respond spare) store with
      | (.ok value, store) => (next value).run (Store.respond spare) store
      | (.error error, store) => (.error (.ofStore error), store) := by
  rw [Program.run_bind, records, Program.run_mapError]
  cases program.run (Store.respond spare) store with
  | mk answer left => cases answer <;> rfl

end Handler

/-! ### Requests -/

/-- A request, with the spare key, the policy on other origins, the time and the fresh id that its
answer draws on. -/
structure Incoming where
  spare : ObjectId
  cors : Option Http.Cors
  occasion : Occasion
  request : Http.Request

/-- The time of requests for which it does not matter. -/
def newYear : Instant :=
  ⟨⟨2026, 1, 1, by decide⟩, 0, 0, isTime_midnight⟩

/-- What the answers keep, a run keeps. -/
theorem Program.Asks.preserves {Q : Type} {A : Q → Type} {ε α σ : Type} {P : Q → Prop} {Inv : σ → Prop}
    {program : Program Q A ε α} {respond : (question : Q) → σ → A question × σ}
    (asks : program.Asks P)
    (keeps : ∀ question state, P question → Inv state → Inv (respond question state).2) :
    Program.Preserves respond Inv program :=
  fun _ start => asks.run_preserves keeps start

/-- A program that only reads leaves the store. -/
theorem Program.Asks.run_reads {ε α : Type} {program : StoreProgram ε α}
    (reads : program.Asks Call.Reads) (spare : ObjectId) (store : Store) :
    (program.run (Store.respond spare) store).2 = store := by
  have keeps : Program.Preserves (Store.respond spare) (· = store) program :=
    reads.preserves fun call next reads same => (Store.respond_of_reads reads spare next).trans same
  exact keeps store rfl

namespace Incoming

/-- The response to the request, and the store that it leaves. -/
def answer (incoming : Incoming) (store : Store) : Http.Response × Store :=
  match (Service.serve Store.backendName incoming.cors incoming.occasion incoming.request).run
      (Store.respond incoming.spare) store with
  | (.ok response, next) => (response, next)
  | (.error impossible, _) => nomatch impossible

/-- The response to the request. -/
def response (incoming : Incoming) (store : Store) : Http.Response :=
  (incoming.answer store).1

/-- The store that the request leaves. -/
def leaves (incoming : Incoming) (store : Store) : Store :=
  (incoming.answer store).2

/-- A response as the client gets it: without a body if the headers alone were asked for, and with the
headers of the policy on other origins. -/
def dressed (incoming : Incoming) (response : Http.Response) : Http.Response :=
  let response := if incoming.request.method = "HEAD" then response.bodiless else response
  match incoming.cors with
  | none => response
  | some cors => cors.decorate incoming.request response

@[simp]
theorem status_dressed (incoming : Incoming) (response : Http.Response) :
    (incoming.dressed response).status = response.status := by
  unfold dressed
  cases incoming.cors <;> dsimp only <;> split <;> rfl

theorem body_dressed (incoming : Incoming) (response : Http.Response) :
    (incoming.dressed response).body =
      if incoming.request.method = "HEAD" then "" else response.body := by
  unfold dressed
  cases incoming.cors <;> dsimp only <;> split <;> rfl

variable {incoming : Incoming}

/-- What the service comes to without asking the store. -/
theorem answer_of_done {response : Http.Response}
    (served : Service.serve Store.backendName incoming.cors incoming.occasion incoming.request =
      .done response) (store : Store) : incoming.answer store = (response, store) := by
  rw [answer, served]
  rfl

/-- What is not for the policy alone is answered by a route, and the response dressed. -/
theorem serve_eq (routed : incoming.cors = none ∨ incoming.request.method ≠ "OPTIONS") :
    Service.serve Store.backendName incoming.cors incoming.occasion incoming.request =
      Service.routeWhole Store.backendName incoming.occasion incoming.request >>= fun response =>
        .done (incoming.dressed response) := by
  have assoc : ∀ (program : Service.Responding) (first second : Http.Response → Http.Response),
      ((program >>= fun response => pure (first response)) >>= fun response =>
        pure (second response) : Service.Responding) =
      program >>= fun response => .done (second (first response)) := by
    intro program first second
    induction program with
    | done response => rfl
    | fail impossible => nomatch impossible
    | ask call next ih => exact congrArg (Program.ask call) (funext ih)
  unfold Service.serve dressed
  cases policy : incoming.cors with
  | none => rfl
  | some cors =>
    have other : ¬ Http.Cors.isPreflight incoming.request = true := by
      rcases routed with none | other
      · rw [policy] at none
        cases none
      · simpa [Http.Cors.isPreflight] using other
    simp only [if_neg other]
    exact assoc _
      (fun response => if incoming.request.method = "HEAD" then response.bodiless else response) _

/-- The request has the verb, and its path is one of the route, with its parameters decoded. -/
structure Addresses (incoming : Incoming) (verb : Verb) (route : Route) : Prop where
  path : ∃ raw, Route.ofPath? (Route.path incoming.request.target) = some raw ∧
    raw.decode = .ok route
  method : Verb.ofMethod? incoming.request.method = some verb

/-- The request reaches the handler of a verb and a route, which is this program. -/
structure Handled (incoming : Incoming) (verb : Verb) (route : Route)
    (program : StoreProgram ApiError Reply) : Prop extends incoming.Addresses verb route where
  handler : Handler.handle Store.backendName incoming.occasion incoming.request verb route = some program

/-- The request gets this response from every store and leaves it. The response does not tell of a fault
of the service, and has at most the name of a parameter as its text. -/
structure Refused (incoming : Incoming) (response : Http.Response) : Prop where
  status : response.status < 500
  body : response.body = "" ∨ ∃ name, response.body = (Service.badParameter name).body
  answer : ∀ store, incoming.answer store = (response, store)

theorem verbs_of_decode {raw route : Route} (decoded : raw.decode = .ok route) :
    raw.verbs = route.verbs := by
  cases raw with
  | health | courses | users => cases decoded; rfl
  | course | lessons | contents | user =>
    obtain ⟨_, _, made⟩ := Route.parameter_of_bind decoded
    cases made
    rfl
  | lesson | content =>
    obtain ⟨_, _, made⟩ := Route.parameter_of_bind decoded
    obtain ⟨_, _, made⟩ := Route.parameter_of_bind made
    cases made
    rfl

/-- A request that reaches a handler is answered with what this comes to. -/
theorem Handled.answer_eq {verb : Verb} {route : Route} {program : StoreProgram ApiError Reply}
    (handled : incoming.Handled verb route program) (store : Store) :
    incoming.answer store =
      (incoming.dressed (Service.respond (program.run (Store.respond incoming.spare) store).1),
        (program.run (Store.respond incoming.spare) store).2) := by
  obtain ⟨⟨⟨raw, path, decoded⟩, method⟩, handler⟩ := handled
  have fits : verb ∈ raw.verbs := by
    rw [verbs_of_decode decoded, ← Handler.handle_isSome_iff, handler]
    rfl
  have plain : incoming.request.method ≠ "OPTIONS" := by
    intro options
    rw [options] at method
    cases method
  have whole : Service.routeWhole Store.backendName incoming.occasion incoming.request =
      program.outcome >>= fun outcome => .done (Service.respond outcome) := by
    simp [Service.routeWhole, path, method, fits, decoded, handler]
    rfl
  rw [answer, serve_eq (.inr plain), whole, Program.run_bind, Program.run_bind, Program.run_outcome]
  rfl

/-- What a route comes to without asking the store. -/
theorem refused_of_done (response : Http.Response)
    (routed : incoming.cors = none ∨ incoming.request.method ≠ "OPTIONS")
    (whole : Service.routeWhole Store.backendName incoming.occasion incoming.request = .done response)
    (status : response.status < 500)
    (body : response.body = "" ∨ ∃ name, response.body = (Service.badParameter name).body) :
    incoming.Refused (incoming.dressed response) where
  status := by rwa [status_dressed]
  body := by
    rw [body_dressed]
    split
    · exact .inl rfl
    · exact body
  answer store := answer_of_done (by rw [serve_eq routed, whole]; rfl) store

/-- **A request reaches a handler or is refused**, whatever the store holds. -/
theorem handled_or_refused (incoming : Incoming) :
    (∃ verb route program, incoming.Handled verb route program) ∨
      ∃ response, incoming.Refused response := by
  by_cases routed : incoming.cors = none ∨ incoming.request.method ≠ "OPTIONS"
  · cases path : Route.ofPath? (Route.path incoming.request.target) with
    | none =>
      exact .inr ⟨_, refused_of_done (.empty 404) routed
        (by simp [Service.routeWhole, path]) (by decide) (.inl rfl)⟩
    | some raw =>
      cases method : Verb.ofMethod? incoming.request.method with
      | none =>
        exact .inr ⟨_, refused_of_done (.empty 405) routed
          (by simp [Service.routeWhole, path, method]) (by decide) (.inl rfl)⟩
      | some verb =>
        by_cases fits : verb ∈ raw.verbs
        · cases decoded : raw.decode with
          | error name =>
            exact .inr ⟨_, refused_of_done (Service.badParameter name) routed
              (by simp [Service.routeWhole, path, method, fits, decoded]) (by decide : 400 < 500)
              (.inr ⟨name, rfl⟩)⟩
          | ok route =>
            rw [verbs_of_decode decoded, ← Handler.handle_isSome_iff Store.backendName
              incoming.occasion incoming.request, Option.isSome_iff_exists] at fits
            obtain ⟨program, handler⟩ := fits
            exact .inl ⟨verb, route, program, ⟨⟨raw, path, decoded⟩, method⟩, handler⟩
        · exact .inr ⟨_, refused_of_done (.empty 405) routed
            (by simp [Service.routeWhole, path, method, fits]) (by decide) (.inl rfl)⟩
  · obtain ⟨some, options⟩ := not_or.mp routed
    obtain ⟨cors, held⟩ := Option.ne_none_iff_exists'.mp some
    refine .inr ⟨cors.preflight incoming.request, (by decide : 200 < 500), .inl rfl, answer_of_done ?_⟩
    have preflight : Http.Cors.isPreflight incoming.request = true := by
      simpa [Http.Cors.isPreflight] using options
    rw [held, Service.serve, if_pos preflight]

end Incoming

/-! ### Any number of requests -/

namespace Store

/-- The store after some requests. -/
def after (store : Store) (traffic : List Incoming) : Store :=
  traffic.foldl (fun store incoming => incoming.leaves store) store

/-- The requests with what each of them got. -/
def exchanges (store : Store) : List Incoming → List (Incoming × Http.Response)
  | [] => []
  | incoming :: rest => (incoming, incoming.response store) :: (incoming.leaves store).exchanges rest

/-- What every request keeps, any number of them keep. -/
theorem after_keeps {Inv : Store → Prop}
    (keeps : ∀ (incoming : Incoming) store, Inv store → Inv (incoming.leaves store)) {store : Store}
    (start : Inv store) (traffic : List Incoming) : Inv (store.after traffic) := by
  induction traffic generalizing store with
  | nil => exact start
  | cons incoming rest ih => exact ih (keeps incoming store start)

/-- **Requests that do without the others.** If some requests get the same response from stores that
agree, and leave such stores again, and every other request leaves a store that still agrees, then those
requests get without the others what they get among them. -/
theorem exchanges_filter {mine : Incoming → Bool} {Agree : Store → Store → Prop}
    (own : ∀ (incoming : Incoming) old new, mine incoming = true → Agree old new →
      incoming.response old = incoming.response new ∧
        Agree (incoming.leaves old) (incoming.leaves new))
    (others : ∀ (incoming : Incoming) old new, mine incoming = false → Agree old new →
      Agree (incoming.leaves old) new)
    {old new : Store} (start : Agree old new) (traffic : List Incoming) :
    (old.exchanges traffic).filter (mine ·.1) = new.exchanges (traffic.filter mine) ∧
      Agree (old.after traffic) (new.after (traffic.filter mine)) := by
  induction traffic generalizing old new with
  | nil => exact ⟨rfl, start⟩
  | cons incoming rest ih =>
    cases whose : mine incoming with
    | true =>
      obtain ⟨same, agree⟩ := own incoming old new whose start
      obtain ⟨responses, agree⟩ := ih agree
      simp only [exchanges, List.filter_cons, whose, if_true]
      exact ⟨by rw [responses, same], agree⟩
    | false =>
      obtain ⟨responses, agree⟩ := ih (others incoming old new whose start)
      simp only [exchanges, List.filter_cons, whose, Bool.false_eq_true, if_false]
      exact ⟨responses, agree⟩

end Store

end Syllabus
