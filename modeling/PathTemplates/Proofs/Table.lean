import PathTemplates.Proofs.Runs

set_option autoImplicit false

/-!
The routes of a router are the registrations that it has accepted, in their order, and its names tell where the named ones
stand among them.
-/

namespace PathTemplates

-- An accepted registration: what was declared, and the route that came of it.
structure Registration where
  name : Option String
  declaration : Declaration
  route : Route

def Registration.of? : Call × Reply → Option Registration
  | (.register name declaration, .registered (.ok route)) => some ⟨name, declaration, route⟩
  | _ => none

def registrations (calls : List Call) (replies : List Reply) : List Registration :=
  (calls.zip replies).filterMap Registration.of?

theorem read_registers_nothing (call : Call) (reply : Reply) (reads : call.reads = true) :
    Registration.of? (call, reply) = none := by
  cases call with
  | register name declaration => cases reads
  | _ => rfl

structure Records (router : Router) (config : Config) (accepted : List Registration) : Prop where
  settings : router.config = config
  routes : router.routes = accepted.map (·.route)
  compiled : ∀ i registration, accepted[i]? = some registration →
    Route.ofDeclaration registration.declaration config.explicit i registration.name = .ok registration.route
  names : ∀ name order, router.names.get? name = some order ↔
    ∃ route, router.routes[order]? = some route ∧ route.name = some name

theorem records_nothing (config : Config) : Records (Router.ofConfig config) config [] where
  settings := rfl
  routes := rfl
  compiled := by simp
  names := by simp [Router.ofConfig]

theorem compiled_fields (declaration : Declaration) (explicit : Bool) (order : Nat) (name : Option String) (route : Route)
    (compiled : Route.ofDeclaration declaration explicit order name = .ok route) :
    route.declaration = declaration ∧ route.order = order ∧ route.name = name := by
  obtain ⟨segments, _, same⟩ := (of_declaration_ok_iff declaration explicit order name route).mp compiled
  simp [same]

theorem get_concat {α : Type} (list : List α) (last : α) (i : Nat) (value : α) :
    (list ++ [last])[i]? = some value ↔ list[i]? = some value ∨ i = list.length ∧ last = value := by
  by_cases inside : i < list.length
  · have notLast : i ≠ list.length := by omega
    rw [List.getElem?_append_left inside]
    simp [notLast]
  · have outside : list[i]? = none := List.getElem?_eq_none (by omega)
    rw [List.getElem?_append_right (by omega), outside]
    by_cases last : i = list.length
    · simp [last]
    · have beyond : i - list.length ≠ 0 := by omega
      simp [last, beyond]

theorem append_names (router : Router) (route : Route) (name : String) (order : Nat) :
    (router.append route).names.get? name = some order ↔
      if route.name = some name then order = router.routes.length else router.names.get? name = some order := by
  unfold Router.append
  cases named : route.name with
  | none => simp
  | some other =>
      by_cases same : other = name
      · simp [same, eq_comm]
      · have different : name ≠ other := Ne.symm same
        simp [same, different]

theorem records_append (router : Router) (config : Config) (accepted : List Registration)
    (records : Records router config accepted) (name : Option String) (declaration : Declaration) (route : Route)
    (free : router.Free name)
    (compiled : Route.ofDeclaration declaration router.config.explicit router.routes.length name = .ok route) :
    Records (router.append route) config (accepted ++ [⟨name, declaration, route⟩]) := by
  have count : router.routes.length = accepted.length := by rw [records.routes, List.length_map]
  have named : route.name = name := (compiled_fields declaration _ _ name route compiled).2.2
  refine ⟨records.settings, ?_, ?_, ?_⟩
  · change router.routes ++ [route] = _
    rw [List.map_append, records.routes]
    rfl
  · intro i registration found
    rcases (get_concat accepted ⟨name, declaration, route⟩ i registration).mp found with earlier | ⟨last, same⟩
    · exact records.compiled i registration earlier
    · subst same
      rw [last, ← count, ← records.settings]
      exact compiled
  · intro query order
    have stands : (∃ other, (router.append route).routes[order]? = some other ∧ other.name = some query) ↔
        router.names.get? query = some order ∨ order = router.routes.length ∧ route.name = some query := by
      rw [records.names query order]
      constructor
      · intro ⟨other, found, same⟩
        rcases (get_concat router.routes route order other).mp found with earlier | ⟨last, equal⟩
        · exact .inl ⟨other, earlier, same⟩
        · exact .inr ⟨last, equal ▸ same⟩
      · intro either
        rcases either with ⟨other, earlier, same⟩ | ⟨last, same⟩
        · exact ⟨other, (get_concat router.routes route order other).mpr (.inl earlier), same⟩
        · exact ⟨route, (get_concat router.routes route order route).mpr (.inr ⟨last, rfl⟩), same⟩
    rw [append_names, stands]
    by_cases same : route.name = some query
    · have unused : router.names.get? query ≠ some order := by
        intro found
        have contained := (NameMap.contains_iff_get router.names query).mpr ⟨order, found⟩
        rw [free query (named.symm.trans same)] at contained
        cases contained
      simp [same, unused]
    · simp [same]

-- One call: only an accepted registration adds to what is recorded.
theorem records_step (router : Router) (config : Config) (accepted : List Registration)
    (records : Records router config accepted) (call : Call) :
    Records (router.answer call).1 config
      (accepted ++ (Registration.of? (call, (router.answer call).2.2)).toList) := by
  rcases call.kinds with ⟨name, declaration, same⟩ | ⟨given, same⟩ | reads
  · subst same
    change Records (router.register name declaration).1 config
      (accepted ++ (Registration.of? (.register name declaration, .registered (router.register name declaration).2.2)).toList)
    rcases router.register_cases name declaration with
      ⟨taken, _, _, outcome⟩ | ⟨error, _, _, outcome⟩ | ⟨route, free, compiled, outcome⟩
    · rw [outcome]
      simpa [Registration.of?] using records
    · rw [outcome]
      simpa [Registration.of?] using records
    · rw [outcome]
      exact records_append router config accepted records name declaration route free compiled
  · subst same
    obtain ⟨cache, same⟩ := router.path_frame given
    change Records (router.path given).1 config (accepted ++ [])
    rw [same, List.append_nil]
    exact ⟨records.settings, records.routes, records.compiled, records.names⟩
  · rw [router.answer_reads call reads, read_registers_nothing call _ reads]
    simpa using records

theorem registrations_cons (router : Router) (call : Call) (rest : List Call) :
    registrations (call :: rest) (router.replies (call :: rest)) =
      (Registration.of? (call, (router.answer call).2.2)).toList ++
        registrations rest ((router.answer call).1.replies rest) := by
  rw [Router.replies_cons, registrations, List.zip_cons_cons, List.filterMap_cons]
  cases Registration.of? (call, (router.answer call).2.2) <;> rfl

theorem records_run (router : Router) (config : Config) (accepted : List Registration)
    (records : Records router config accepted) (calls : List Call) :
    Records (router.after calls) config (accepted ++ registrations calls (router.replies calls)) := by
  induction calls generalizing router accepted with
  | nil => exact (List.append_nil accepted).symm ▸ records
  | cons call rest ih =>
      have step := records_step router config accepted records call
      have whole := ih (router.answer call).1 _ step
      rw [List.append_assoc] at whole
      rw [Router.after_cons, registrations_cons]
      exact whole

def registered (config : Config) (calls : List Call) : List Registration :=
  registrations calls ((Router.ofConfig config).replies calls)

theorem records_of_config (config : Config) (calls : List Call) :
    Records ((Router.ofConfig config).after calls) config (registered config calls) :=
  records_run (Router.ofConfig config) config [] (records_nothing config) calls

theorem never_taken_by_compiling (declaration : Declaration) (taken : String) :
    ¬ Refused declaration (.duplicateRouteName taken) := by
  intro refused
  rcases refused with ⟨_, _, _, _, _, _, offence⟩ | ⟨_, _, _, same⟩
  · cases offence
  · cases same

section Records

variable (router : Router) (config : Config) (accepted : List Registration) (records : Records router config accepted)

include records

theorem recorded_route (i : Nat) (route : Route) :
    router.routes[i]? = some route ↔ ∃ registration, accepted[i]? = some registration ∧ registration.route = route := by
  rw [records.routes, List.getElem?_map, Option.map_eq_some_iff]

theorem recorded_fields (i : Nat) (registration : Registration) (found : accepted[i]? = some registration) :
    registration.route.order = i ∧ registration.route.name = registration.name :=
  (compiled_fields _ _ _ _ _ (records.compiled i registration found)).2

theorem recorded_order (i : Nat) (route : Route) (found : router.routes[i]? = some route) : route.order = i := by
  obtain ⟨registration, made, same⟩ := (recorded_route router config accepted records i route).mp found
  rw [← same]
  exact (recorded_fields router config accepted records i registration made).1

theorem recorded_distinct (i j : Nat) (a b : Route) (name : String) (first : router.routes[i]? = some a)
    (second : router.routes[j]? = some b) (firstName : a.name = some name) (secondName : b.name = some name) : i = j := by
  have atFirst := (records.names name i).mpr ⟨a, first, firstName⟩
  have atSecond := (records.names name j).mpr ⟨b, second, secondName⟩
  exact Option.some.inj (atFirst.symm.trans atSecond)

theorem recorded_in_range (name : String) (order : Nat) (found : router.names.get? name = some order) :
    order < router.routes.length := by
  obtain ⟨route, stands, _⟩ := (records.names name order).mp found
  exact (List.getElem?_eq_some_iff.mp stands).1

theorem route_found_iff (name : String) (route : Route) :
    router.route? name = some route ↔ ∃ declaration, ⟨some name, declaration, route⟩ ∈ accepted := by
  rw [Router.route?, Option.bind_eq_some_iff]
  constructor
  · intro ⟨order, found, stands⟩
    obtain ⟨other, again, named⟩ := (records.names name order).mp found
    obtain ⟨registration, made, same⟩ := (recorded_route router config accepted records order route).mp stands
    have fields := recorded_fields router config accepted records order registration made
    rw [stands, Option.some.injEq] at again
    rw [same, again, named] at fields
    refine ⟨registration.declaration, ?_⟩
    rw [fields.2, ← same]
    exact List.mem_of_getElem? made
  · intro ⟨declaration, member⟩
    obtain ⟨order, made⟩ := List.getElem?_of_mem member
    have stands := (recorded_route router config accepted records order route).mpr ⟨_, made, rfl⟩
    have named := (recorded_fields router config accepted records order _ made).2
    exact ⟨order, (records.names name order).mpr ⟨route, stands, named⟩, stands⟩

theorem name_unknown_iff (name : String) :
    router.route? name = none ↔ ∀ registration ∈ accepted, registration.name ≠ some name := by
  rw [Option.eq_none_iff_forall_ne_some]
  constructor
  · intro absent registration member named
    obtain ⟨_, declaration, route⟩ := registration
    cases named
    exact absent route ((route_found_iff router config accepted records name route).mpr ⟨declaration, member⟩)
  · intro absent route found
    obtain ⟨declaration, member⟩ := (route_found_iff router config accepted records name route).mp found
    exact absent _ member rfl

end Records

theorem path_named_unknown (router : Router) (name : String) (given : Params) :
    (router.pathNamed name given).1 = [.unknownName name] ↔ router.route? name = none := by
  cases found : router.route? name with
  | none => simp [router.path_named_missing name given found]
  | some route => simp [router.path_named_found name given route found, Router.ask_knows]

theorem register_taken_iff (router : Router) (name : Option String) (declaration : Declaration) (taken : String) :
    (router.register name declaration).2.2 = .error (.duplicateRouteName taken) ↔
      name = some taken ∧ router.names.contains taken = true := by
  rcases router.register_cases name declaration with
    ⟨first, same, contained, outcome⟩ | ⟨error, free, failed, outcome⟩ | ⟨route, free, _, outcome⟩
  · rw [outcome, same]
    constructor
    · intro equal
      cases equal
      exact ⟨rfl, contained⟩
    · intro ⟨equal, _⟩
      cases equal
      rfl
  · rw [outcome]
    constructor
    · intro equal
      cases equal
      exact absurd ((of_declaration_error_iff declaration _ _ name _).mp failed) (never_taken_by_compiling declaration taken)
    · intro ⟨same, contained⟩
      rw [free taken same] at contained
      cases contained
  · rw [outcome]
    constructor
    · intro equal
      cases equal
    · intro ⟨same, contained⟩
      rw [free taken same] at contained
      cases contained

theorem register_refused_unchanged (router : Router) (name : Option String) (declaration : Declaration)
    (error : RegistrationError) (refused : (router.register name declaration).2.2 = .error error) :
    (router.register name declaration).1 = router := by
  rcases router.register_cases name declaration with ⟨_, _, _, outcome⟩ | ⟨_, _, _, outcome⟩ | ⟨_, _, _, outcome⟩
  · rw [outcome]
  · rw [outcome]
  · rw [outcome] at refused
    cases refused

theorem register_accepted_appends (router : Router) (name : Option String) (declaration : Declaration) (route : Route)
    (accepted : (router.register name declaration).2.2 = .ok route) :
    (router.register name declaration).1 = router.append route := by
  rcases router.register_cases name declaration with ⟨_, _, _, outcome⟩ | ⟨_, _, _, outcome⟩ | ⟨_, _, _, outcome⟩
  · rw [outcome] at accepted
    cases accepted
  · rw [outcome] at accepted
    cases accepted
  · rw [outcome] at accepted ⊢
    cases accepted
    rfl

-- What the routes and the names of a router are, and what they answer, after the registrations that it has accepted.
structure KeepsTable (router : Router) (config : Config) (accepted : List Registration) : Prop where
  routes : router.routes = accepted.map (·.route)
  compiled : ∀ i registration, accepted[i]? = some registration →
    Route.ofDeclaration registration.declaration config.explicit i registration.name = .ok registration.route
  orders : ∀ (i : Nat) (route : Route), router.routes[i]? = some route → route.order = i
  names : ∀ name order, router.names.get? name = some order ↔
    ∃ route, router.routes[order]? = some route ∧ route.name = some name
  distinct : ∀ (i j : Nat) (a b : Route) name, router.routes[i]? = some a → router.routes[j]? = some b →
    a.name = some name → b.name = some name → i = j
  inRange : ∀ name order, router.names.get? name = some order → order < router.routes.length
  found : ∀ name route, router.route? name = some route ↔ ∃ declaration, ⟨some name, declaration, route⟩ ∈ accepted
  asked : ∀ name given route, router.route? name = some route →
    (router.pathNamed name given).2 = (route.path given config.pathOptions).toOption
  unknown : ∀ name given, (router.pathNamed name given).1 = [.unknownName name] ↔
    ∀ registration ∈ accepted, registration.name ≠ some name
  taken : ∀ name declaration other, (router.register name declaration).2.2 = .error (.duplicateRouteName other) ↔
    name = some other ∧ ∃ order, router.names.get? other = some order
  refused : ∀ name declaration error, (router.register name declaration).2.2 = .error error →
    (router.register name declaration).1 = router
  stillFree : ∀ name declaration error again, router.names.get? name = none →
    (router.register (some name) declaration).2.2 = .error error →
    ((router.register (some name) declaration).1.register (some name) again).2.2 ≠ .error (.duplicateRouteName name)

theorem table_keeps_registrations (config : Config) (calls : List Call) :
    KeepsTable ((Router.ofConfig config).after calls) config (registered config calls) := by
  have records := records_of_config config calls
  generalize (Router.ofConfig config).after calls = router at records ⊢
  generalize registered config calls = accepted at records ⊢
  exact {
    routes := records.routes
    compiled := records.compiled
    orders := recorded_order router config accepted records
    names := records.names
    distinct := recorded_distinct router config accepted records
    inRange := recorded_in_range router config accepted records
    found := route_found_iff router config accepted records
    asked := fun name given route found => by
      rw [router.path_named_found name given route found, Router.ask_answer, records.settings]
    unknown := fun name given => by
      rw [path_named_unknown, name_unknown_iff router config accepted records]
    taken := fun name declaration other => by
      rw [register_taken_iff, NameMap.contains_iff_get]
    refused := register_refused_unchanged router
    stillFree := fun name declaration error again free failed taken => by
      rw [register_refused_unchanged router (some name) declaration error failed, register_taken_iff,
        NameMap.contains_iff_get] at taken
      obtain ⟨_, order, found⟩ := taken
      rw [free] at found
      cases found }

end PathTemplates
