import PathTemplates.Proofs.Table

set_option autoImplicit false

/-!
What a router tells on the way accounts for its answer: every route that is asked is told of once, in the order of the routes,
up to the one whose path is the answer, and a registration tells whether it was compiled and added.
-/

namespace PathTemplates

section Asking

variable (options : PathOptions) (given : Params)

-- A route refuses the parameters, and the event gives its reason.
def Refuses (route : Route) (event : Event) : Prop :=
  ∃ reason, route.path given options = .error reason ∧ event = .rejected route.order route.template reason

-- What is told of routes that are asked in turn, and the answer: of those behind the one that accepts, nothing.
inductive Traced : List Route → List Event → Option String → Prop
  | accepted (before after : List Route) (route : Route) (refusals : List Event) (path : String)
      (refused : List.Forall₂ (Refuses options given) before refusals) (accepts : route.path given options = .ok path) :
      Traced (before ++ route :: after) (refusals ++ [.accepted route.order route.template path]) (some path)
  | refused (routes : List Route) (refusals : List Event) (refused : List.Forall₂ (Refuses options given) routes refusals) :
      Traced routes refusals none

theorem ask_accepts (route : Route) (path : String) (accepts : route.path given options = .ok path) :
    Router.ask options given route = (.accepted route.order route.template path, some path) := by
  simp only [Router.ask, accepts]

theorem ask_refuses (route : Route) (reason : Rejection) (refuses : route.path given options = .error reason) :
    Router.ask options given route = (.rejected route.order route.template reason, none) := by
  simp only [Router.ask, refuses]

theorem traced_behind (route : Route) (event : Event) (routes : List Route) (events : List Event) (answer : Option String)
    (refuses : Refuses options given route event) (traced : Traced options given routes events answer) :
    Traced options given (route :: routes) (event :: events) answer := by
  cases traced with
  | accepted before after next refusals path refused accepts =>
      exact .accepted (route :: before) after next (event :: refusals) path (.cons refuses refused) accepts
  | refused _ _ refused => exact .refused (route :: routes) (event :: events) (.cons refuses refused)

theorem scan_traced (routes : List Route) :
    Traced options given routes (Router.scan options given routes).1 (Router.scan options given routes).2 := by
  induction routes with
  | nil => exact .refused [] [] .nil
  | cons route rest ih =>
      rw [Router.scan]
      cases outcome : route.path given options with
      | ok path =>
          rw [ask_accepts options given route path outcome]
          exact .accepted [] rest route [] path .nil outcome
      | error reason =>
          rw [ask_refuses options given route reason outcome]
          exact traced_behind options given route _ rest _ _ ⟨reason, outcome, rfl⟩ ih

theorem ask_traced (route : Route) :
    Traced options given [route] [(Router.ask options given route).1] (Router.ask options given route).2 := by
  cases outcome : route.path given options with
  | ok path =>
      rw [ask_accepts options given route path outcome]
      exact .accepted [] [] route [] path .nil outcome
  | error reason =>
      rw [ask_refuses options given route reason outcome]
      exact .refused [route] _ (.cons ⟨reason, outcome, rfl⟩ .nil)

end Asking

-- What a router tells and answers after the registrations that it has accepted.
structure Tells (router : Router) (config : Config) (accepted : List Registration) : Prop where
  own : ∀ (i : Nat) (registration : Registration), accepted[i]? = some registration →
    registration.route.order = i ∧ registration.route.template = registration.declaration.template
  recalled : ∀ given cache answer, router.cache = some cache → cache.entries.lookup given.key = some answer →
    (router.path given).2 = ([.asked accepted.length given.size, .recalled answer], answer)
  scanned : ∀ given, (∀ cache, router.cache = some cache → cache.entries.lookup given.key = none) →
    ∃ events, (router.path given).2.1 = .asked accepted.length given.size :: events ∧
      Traced config.pathOptions given (accepted.map (·.route)) events (router.path given).2.2
  named : ∀ name declaration route, ⟨some name, declaration, route⟩ ∈ accepted → ∀ given,
    ∃ event, (router.pathNamed name given).1 = [event] ∧
      Traced config.pathOptions given [route] [event] (router.pathNamed name given).2
  unknown : ∀ name, (∀ registration ∈ accepted, registration.name ≠ some name) → ∀ given,
    router.pathNamed name given = ([.unknownName name], none)
  registered : ∀ name declaration route, (router.register name declaration).2.2 = .ok route →
    (router.register name declaration).2.1 =
        [.compiled declaration.template accepted.length route.segments.length route.filters,
          .registered accepted.length name declaration.template (router.register name declaration).1.size] ∧
      (router.register name declaration).1.size = accepted.length + 1
  succeeded : ∀ name declaration, (∃ route, (router.register name declaration).2.2 = .ok route) ↔
    (router.register name declaration).2.1.map (·.message) = ["Route template compiled", "Route registered"]
  refused : ∀ name declaration error,
    (router.register name declaration).2.1 = [.refused declaration.template error] ↔
      (∀ taken, name = some taken → ∀ registration ∈ accepted, registration.name ≠ some taken) ∧
        Route.ofDeclaration declaration config.explicit accepted.length name = .error error
  taken : ∀ name declaration, (router.register name declaration).2.1 = [] ↔
    ∃ taken, (router.register name declaration).2.2 = .error (.duplicateRouteName taken)
  quiet : ∀ call, call.reads = true → (∀ name given, call ≠ .pathNamed name given) → (router.answer call).2.1 = []

theorem succeeded_tells_iff (router : Router) (name : Option String) (declaration : Declaration) :
    (∃ route, (router.register name declaration).2.2 = .ok route) ↔
      (router.register name declaration).2.1.map (·.message) = ["Route template compiled", "Route registered"] := by
  rcases router.register_cases name declaration with ⟨_, _, _, outcome⟩ | ⟨_, _, _, outcome⟩ | ⟨_, _, _, outcome⟩
  · simp [outcome]
  · simp [outcome]
  · simp [outcome, Event.message]

theorem taken_tells_iff (router : Router) (name : Option String) (declaration : Declaration) :
    (router.register name declaration).2.1 = [] ↔
      ∃ taken, (router.register name declaration).2.2 = .error (.duplicateRouteName taken) := by
  rcases router.register_cases name declaration with ⟨_, _, _, outcome⟩ | ⟨error, _, failed, outcome⟩ | ⟨_, _, _, outcome⟩
  · simp [outcome]
  · have refused := (of_declaration_error_iff declaration _ _ name error).mp failed
    have other : ∀ taken, error ≠ .duplicateRouteName taken := fun taken same =>
      never_taken_by_compiling declaration taken (same ▸ refused)
    simp [outcome, other]
  · simp [outcome]

section Records

variable (router : Router) (config : Config) (accepted : List Registration) (records : Records router config accepted)

include records

theorem recorded_count : router.routes.length = accepted.length := by rw [records.routes, List.length_map]

theorem name_free_iff (name : String) :
    router.names.contains name = false ↔ ∀ registration ∈ accepted, registration.name ≠ some name := by
  rw [← name_unknown_iff router config accepted records, Router.route?, NameMap.contains]
  cases found : router.names.get? name with
  | none => simp
  | some order =>
      obtain ⟨route, stands, _⟩ := (records.names name order).mp found
      simp [stands]

theorem free_iff (name : Option String) :
    router.Free name ↔ ∀ taken, name = some taken → ∀ registration ∈ accepted, registration.name ≠ some taken := by
  simp only [Router.Free, name_free_iff router config accepted records]

theorem refused_tells_iff (name : Option String) (declaration : Declaration) (error : RegistrationError) :
    (router.register name declaration).2.1 = [.refused declaration.template error] ↔
      (∀ taken, name = some taken → ∀ registration ∈ accepted, registration.name ≠ some taken) ∧
        Route.ofDeclaration declaration config.explicit accepted.length name = .error error := by
  have count := recorded_count router config accepted records
  rw [← free_iff router config accepted records, ← records.settings, ← count]
  rcases router.register_cases name declaration with
    ⟨taken, same, contained, outcome⟩ | ⟨other, free, failed, outcome⟩ | ⟨route, _, compiled, outcome⟩
  · have used : ¬ router.Free name := by
      intro free
      rw [free taken same] at contained
      cases contained
    simp [outcome, used]
  · simp [outcome, free, failed]
  · simp [outcome, compiled]

theorem registered_tells (name : Option String) (declaration : Declaration) (route : Route)
    (added : (router.register name declaration).2.2 = .ok route) :
    (router.register name declaration).2.1 =
        [.compiled declaration.template accepted.length route.segments.length route.filters,
          .registered accepted.length name declaration.template (router.register name declaration).1.size] ∧
      (router.register name declaration).1.size = accepted.length + 1 := by
  have count := recorded_count router config accepted records
  rcases router.register_cases name declaration with ⟨_, _, _, outcome⟩ | ⟨_, _, _, outcome⟩ | ⟨other, _, compiled, outcome⟩
  · rw [outcome] at added
    cases added
  · rw [outcome] at added
    cases added
  · rw [outcome] at added ⊢
    cases added
    obtain ⟨declared, order, named⟩ := compiled_fields declaration _ _ name route compiled
    have size : (router.append route).size = accepted.length + 1 := by
      rw [Router.size, Router.append, List.length_append, count, List.length_singleton]
    refine ⟨?_, size⟩
    rw [Route.template, declared, order, named, count]
    rfl

theorem recorded_own (i : Nat) (registration : Registration) (found : accepted[i]? = some registration) :
    registration.route.order = i ∧ registration.route.template = registration.declaration.template := by
  obtain ⟨declared, order, _⟩ := compiled_fields _ _ _ _ _ (records.compiled i registration found)
  exact ⟨order, congrArg Declaration.template declared⟩

theorem scanned_tells (given : Params) (missing : ∀ cache, router.cache = some cache → cache.entries.lookup given.key = none) :
    ∃ events, (router.path given).2.1 = .asked accepted.length given.size :: events ∧
      Traced config.pathOptions given (accepted.map (·.route)) events (router.path given).2.2 := by
  have traced := scan_traced router.config.pathOptions given router.routes
  have count := recorded_count router config accepted records
  rw [← records.settings, ← records.routes, ← count]
  rcases router.path_cases given with ⟨cache, answer, stored, found, _⟩ | ⟨_, _, _, outcome⟩ | ⟨_, outcome⟩
  · rw [missing cache stored] at found
    cases found
  · rw [outcome]
    exact ⟨_, rfl, traced⟩
  · rw [outcome]
    exact ⟨_, rfl, traced⟩

theorem recalled_tells (given : Params) (cache : Cache) (answer : Option String) (stored : router.cache = some cache)
    (found : cache.entries.lookup given.key = some answer) :
    (router.path given).2 = ([.asked accepted.length given.size, .recalled answer], answer) := by
  have count := recorded_count router config accepted records
  rcases router.path_cases given with ⟨other, again, same, known, outcome⟩ | ⟨other, same, missing, _⟩ | ⟨uncached, _⟩
  · cases stored.symm.trans same
    cases found.symm.trans known
    rw [outcome, count]
  · cases stored.symm.trans same
    cases found.symm.trans missing
  · cases stored.symm.trans uncached

end Records

theorem events_explain_answers (config : Config) (calls : List Call) :
    Tells ((Router.ofConfig config).after calls) config (registered config calls) := by
  have records := records_of_config config calls
  generalize (Router.ofConfig config).after calls = router at records ⊢
  generalize registered config calls = accepted at records ⊢
  exact {
    own := recorded_own router config accepted records
    recalled := recalled_tells router config accepted records
    scanned := scanned_tells router config accepted records
    named := fun name declaration route member given => by
      have found := (route_found_iff router config accepted records name route).mpr ⟨declaration, member⟩
      rw [router.path_named_found name given route found, records.settings]
      exact ⟨_, rfl, ask_traced config.pathOptions given route⟩
    unknown := fun name absent given =>
      router.path_named_missing name given ((name_unknown_iff router config accepted records name).mpr absent)
    registered := registered_tells router config accepted records
    succeeded := succeeded_tells_iff router
    refused := refused_tells_iff router config accepted records
    taken := taken_tells_iff router
    quiet := fun call reads unnamed => by
      cases call with
      | register name declaration => cases reads
      | path given => cases reads
      | pathNamed name given => exact absurd rfl (unnamed name given)
      | _ => rfl }

-- The first route wants an `item`. What is found for no parameters at all is recalled the second time.
example :
    ((Router.ofConfig {}).sights [.register (some "a") { template := "a/:item" }, .register none { template := "b" },
        .path .empty, .path .empty, .pathNamed "a" .empty, .isEmpty]).map (·.events) =
      [[.compiled "a/:item" 0 2 [], .registered 0 (some "a") "a/:item" 1],
        [.compiled "b" 1 1 [], .registered 1 none "b" 2],
        [.asked 2 0, .rejected 0 "a/:item" (.missingValue "item"), .accepted 1 "b" "/b"],
        [.asked 2 0, .recalled (some "/b")], [.rejected 0 "a/:item" (.missingValue "item")], []] := rfl

end PathTemplates
