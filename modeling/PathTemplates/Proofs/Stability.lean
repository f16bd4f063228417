import PathTemplates.Proofs.Answers

set_option autoImplicit false

/-!
Routes are only ever put behind the others and keep their names. So a path that parameters are answered with stays their answer,
a route that is added answers only what no earlier one does, and a named route that accepts is overtaken by earlier ones alone.
-/

namespace PathTemplates

-- The path that a router of a configuration, after some calls, gives for parameters.
def pathAfter (config : Config) (calls : List Call) (given : Params) : Option String :=
  (((Router.ofConfig config).after calls).path given).2.2

def namedAfter (config : Config) (calls : List Call) (name : String) (given : Params) : Option String :=
  (((Router.ofConfig config).after calls).pathNamed name given).2

theorem first_path_append (options : PathOptions) (given : Params) (routes later : List Route) :
    firstPath options given (routes ++ later) = (firstPath options given routes).or (firstPath options given later) :=
  List.findSome?_append

theorem first_path_single (options : PathOptions) (given : Params) (route : Route) :
    firstPath options given [route] = (route.path given options).toOption := by
  rw [firstPath, List.findSome?_cons]
  cases (route.path given options).toOption <;> rfl

namespace Router

theorem replies_append (router : Router) (calls later : List Call) :
    router.replies (calls ++ later) = router.replies calls ++ (router.after calls).replies later := by
  induction calls generalizing router with
  | nil => rfl
  | cons call rest ih => exact congrArg ((router.answer call).2.2 :: ·) (ih (router.answer call).1)

theorem replies_length (router : Router) (calls : List Call) : (router.replies calls).length = calls.length := by
  induction calls generalizing router with
  | nil => rfl
  | cons call rest ih => exact congrArg Nat.succ (ih (router.answer call).1)

end Router

-- No call takes back what was registered before.
theorem registered_append (config : Config) (calls later : List Call) :
    registered config (calls ++ later) =
      registered config calls ++ registrations later (((Router.ofConfig config).after calls).replies later) := by
  have same := ((Router.ofConfig config).replies_length calls).symm
  rw [registered, registrations, Router.replies_append, List.zip_append same, List.filterMap_append]
  rfl

theorem registered_accepted (config : Config) (calls : List Call) (name : Option String) (declaration : Declaration)
    (route : Route) (accepted : (((Router.ofConfig config).after calls).register name declaration).2.2 = .ok route) :
    registered config (calls ++ [.register name declaration]) = registered config calls ++ [⟨name, declaration, route⟩] := by
  have reply : ((Router.ofConfig config).after calls).replies [.register name declaration] = [.registered (.ok route)] := by
    rw [← accepted]
    rfl
  rw [registered_append, reply]
  rfl

theorem path_after_eq (config : Config) (calls : List Call) (given : Params) :
    pathAfter config calls given =
      firstPath config.pathOptions given ((registered config calls).map (·.route)) := by
  have records := records_of_config config calls
  rw [pathAfter, Router.path_answer _ given ((Router.ofConfig config).sound_run calls (Router.sound_of_config config)),
    records.settings, records.routes]

theorem named_after_iff (config : Config) (calls : List Call) (name : String) (given : Params) (path : String) :
    namedAfter config calls name given = some path ↔
      ∃ route, ((Router.ofConfig config).after calls).route? name = some route ∧ route.path given config.pathOptions = .ok path := by
  have settings := (records_of_config config calls).settings
  rw [namedAfter]
  cases found : ((Router.ofConfig config).after calls).route? name with
  | none => simp [Router.path_named_missing _ name given found]
  | some route =>
      rw [Router.path_named_found _ name given route found, Router.ask_answer, settings]
      cases outcome : route.path given config.pathOptions <;> simp [Except.toOption, outcome]

theorem route_stays (config : Config) (calls later : List Call) (name : String) (route : Route)
    (found : ((Router.ofConfig config).after calls).route? name = some route) :
    ((Router.ofConfig config).after (calls ++ later)).route? name = some route := by
  obtain ⟨declaration, member⟩ := (route_found_iff _ _ _ (records_of_config config calls) name route).mp found
  refine (route_found_iff _ _ _ (records_of_config config (calls ++ later)) name route).mpr ⟨declaration, ?_⟩
  rw [registered_append]
  exact List.mem_append_left _ member

-- A route that accepts is the first one that does, unless one of a smaller order accepts too.
theorem first_path_of_accepting (options : PathOptions) (given : Params) (routes : List Route) (i : Nat) (route : Route)
    (path : String) (stands : routes[i]? = some route) (accepts : route.path given options = .ok path) :
    ∃ answer, firstPath options given routes = some answer ∧
      ((∀ (j : Nat) earlier, j < i → routes[j]? = some earlier → ∀ other, earlier.path given options ≠ .ok other) →
        answer = path) := by
  induction routes generalizing i with
  | nil => cases stands
  | cons first rest ih =>
      rw [firstPath, List.findSome?_cons]
      cases outcome : first.path given options with
      | ok answer =>
          refine ⟨answer, rfl, fun rejected => ?_⟩
          cases i with
          | zero =>
              cases stands
              exact Except.ok.inj (outcome.symm.trans accepts)
          | succ i => exact absurd outcome (rejected 0 first (Nat.succ_pos i) rfl answer)
      | error rejection =>
          cases i with
          | zero =>
              cases stands
              cases outcome.symm.trans accepts
          | succ i =>
              obtain ⟨answer, found, same⟩ := ih i stands
              refine ⟨answer, found, fun rejected => same ?_⟩
              intro j earlier before there
              exact rejected (j + 1) earlier (Nat.succ_lt_succ before) there

theorem named_after_agrees (config : Config) (calls : List Call) (name : String) (given : Params) (path : String)
    (answered : namedAfter config calls name given = some path) :
    ∃ route answer, ((Router.ofConfig config).after calls).route? name = some route ∧
      pathAfter config calls given = some answer ∧
      ((∀ earlier ∈ ((Router.ofConfig config).after calls).routes, earlier.order < route.order →
        ∀ other, earlier.path given config.pathOptions ≠ .ok other) → answer = path) := by
  have records := records_of_config config calls
  obtain ⟨route, found, accepts⟩ := (named_after_iff config calls name given path).mp answered
  obtain ⟨i, _, stands⟩ := Option.bind_eq_some_iff.mp found
  have place := recorded_order _ _ _ records i route stands
  obtain ⟨answer, first, same⟩ := first_path_of_accepting config.pathOptions given _ i route path stands accepts
  refine ⟨route, answer, found, ?_, fun rejected => same ?_⟩
  · rw [path_after_eq, ← records.routes]
    exact first
  · intro j earlier before there
    refine rejected earlier (List.mem_of_getElem? there) ?_
    rw [recorded_order _ _ _ records j earlier there, place]
    exact before

-- What the answers at the points of a run are, and what stays of them whatever is called later.
structure Stable (config : Config) (calls : List Call) : Prop where
  replied : ∀ (i : Nat) given, calls[i]? = some (.path given) →
    ((Router.ofConfig config).replies calls)[i]? = some (.path (pathAfter config (calls.take i) given))
  repliedNamed : ∀ (i : Nat) name given, calls[i]? = some (.pathNamed name given) →
    ((Router.ofConfig config).replies calls)[i]? = some (.path (namedAfter config (calls.take i) name given))
  path : ∀ later given path, pathAfter config calls given = some path → pathAfter config (calls ++ later) given = some path
  named : ∀ later name given path, namedAfter config calls name given = some path →
    namedAfter config (calls ++ later) name given = some path
  -- Between the request without an answer and the registration there may be calls that register nothing.
  appended : ∀ between name declaration route given, pathAfter config calls given = none →
    registered config (calls ++ between) = registered config calls →
    (((Router.ofConfig config).after (calls ++ between)).register name declaration).2.2 = .ok route →
    pathAfter config (calls ++ between ++ [.register name declaration]) given =
      (route.path given config.pathOptions).toOption
  overtaken : ∀ name given path, namedAfter config calls name given = some path →
    ∃ route answer, ((Router.ofConfig config).after calls).route? name = some route ∧
      pathAfter config calls given = some answer ∧
      ((∀ earlier ∈ ((Router.ofConfig config).after calls).routes, earlier.order < route.order →
        ∀ other, earlier.path given config.pathOptions ≠ .ok other) → answer = path)

theorem answers_stay (config : Config) (calls : List Call) : Stable config calls where
  replied := fun i _ made => (Router.ofConfig config).reply_at calls i _ made
  repliedNamed := fun i _ _ made => (Router.ofConfig config).reply_at calls i _ made
  path := by
    intro later given path answered
    rw [path_after_eq] at answered ⊢
    rw [registered_append, List.map_append, first_path_append, answered]
    rfl
  named := by
    intro later name given path answered
    obtain ⟨route, found, accepts⟩ := (named_after_iff config calls name given path).mp answered
    exact (named_after_iff config (calls ++ later) name given path).mpr
      ⟨route, route_stays config calls later name route found, accepts⟩
  appended := by
    intro between name declaration route given unanswered quiet accepted
    rw [path_after_eq] at unanswered
    rw [path_after_eq, registered_accepted config (calls ++ between) name declaration route accepted, quiet, List.map_append,
      first_path_append, unanswered]
    exact first_path_single config.pathOptions given route
  overtaken := named_after_agrees config calls

-- A route of the name `b`, and with it a request that only a later route accepts and that is remembered as unanswered.
def growingTable : List Call :=
  [.register (some "b") { template := "b/:item" }, .path (.ofList [("page", some (.int 1))])]

def laterRoute : Declaration := { template := "p/:page" }

theorem answers_stay_while_a_table_grows :
    namedAfter {} growingTable "b" (.ofList [("item", some (.int 7))]) = some "/b/7" ∧
      namedAfter {} (growingTable ++ [.register (some "b") laterRoute]) "b" (.ofList [("item", some (.int 7))]) = some "/b/7" ∧
      pathAfter {} (growingTable ++ [.register none laterRoute, .path .empty]) (.ofList [("item", some (.int 7))]) = some "/b/7" ∧
      pathAfter {} growingTable (.ofList [("page", some (.int 1))]) = none ∧
      pathAfter {} (growingTable ++ [.path (.ofList [("page", some (.int 1))])] ++ [.register none laterRoute])
        (.ofList [("page", some (.int 1))]) = some "/p/1" :=
  ⟨rfl, (answers_stay {} growingTable).named _ "b" _ "/b/7" rfl, (answers_stay {} growingTable).path _ _ "/b/7" rfl, rfl,
    (answers_stay {} growingTable).appended [.path (.ofList [("page", some (.int 1))])] none laterRoute _ _ rfl rfl rfl⟩

end PathTemplates
