import PathTemplates.Proofs.Shortening
import PathTemplates.Proofs.Stability

set_option autoImplicit false

/-!
What minimizing does to a path: it leaves out placeholders with their defaults at the end. So a route that accepts parameters
without it accepts them with it, and a table of routes that has an answer without it has one with it, perhaps of an earlier route.
-/

namespace PathTemplates

-- A rejection by one of the checks that do not ask which segments are kept.
def Rejection.early : Rejection → Bool
  | .filterMismatch _ => true
  | .requirementFailed _ _ => true
  | .missingValue _ => false
  | .emptyComponent _ _ => false

section Route

variable (route : Route) (given : Params)

theorem droppable_minimized (segment : Segment) (droppable : segment.droppable false given = true) :
    segment.droppable true given = true := by
  rw [droppable_iff] at droppable ⊢
  obtain ⟨placeholder, same, optional, either⟩ := droppable
  exact ⟨placeholder, same, optional, .inl (either.resolve_right fun minimized => Bool.false_ne_true minimized.1)⟩

theorem keep_minimized (segments : List Segment) :
    Resolution.keep true given segments <+: Resolution.keep false given segments :=
  trimmed_prefix _ _ segments fun segment _ => droppable_minimized given segment

theorem accepts_minimized (accepts : Accepts route given false) : Accepts route given true where
  matched := accepts.matched
  admitted := accepts.admitted
  sound := fun segment member => accepts.sound segment ((keep_minimized given route.segments).subset member)

theorem left_out_default (segments : List Segment) (segment : Segment)
    (left : segment ∈ (Resolution.keep false given segments).drop (Resolution.keep true given segments).length) :
    ∃ placeholder, segment = .slot placeholder ∧
      (placeholder.effective given).map Value.form = placeholder.default.map Value.form := by
  obtain ⟨dropped, whole⟩ := kept_leading false given segments
  have leading : Resolution.keep false given segments <+: segments := ⟨dropped, whole.symm⟩
  have dispensable := (keep_least true given segments).1 segment ((leading.drop _).subset left)
  cases segment with
  | literal text =>
      obtain ⟨placeholder, same, _⟩ := dispensable
      cases same
  | slot placeholder => exact ⟨placeholder, rfl, dispensable_default true given placeholder dispensable⟩

theorem early_resolve_iff (minimize : Bool) (rejection : Rejection) (early : rejection.early = true) :
    route.resolve given minimize = .error rejection ↔
      (Resolution.mismatch? route.filters given).or (Resolution.failure? route.segments given) = some rejection := by
  cases matched : Resolution.mismatch? route.filters given with
  | some first => simp [resolve_mismatched route given minimize first matched]
  | none =>
      cases admitted : Resolution.failure? route.segments given with
      | some first => simp [resolve_failed route given minimize first matched admitted]
      | none =>
          cases flaw : (Resolution.keep minimize given route.segments).findSome? (Resolution.flaw? given) with
          | none => simp [resolve_kept route given minimize matched admitted flaw]
          | some first =>
              obtain ⟨segment, _, found⟩ := List.exists_of_findSome?_eq_some flaw
              have late : first ≠ rejection := by
                intro same
                subst same
                cases (flaw_some_iff given segment first).mp found <;> cases early
              simp [resolve_flawed route given minimize first matched admitted flaw, late]

theorem path_error_iff (options : PathOptions) (rejection : Rejection) :
    route.path given options = .error rejection ↔ route.resolve given options.minimize = .error rejection := by
  rw [Route.path]
  cases route.resolve given options.minimize <;> simp [bind, Except.bind, pure, Except.pure]

end Route

structure Shortens (given : Params) (full minimized : Resolution) : Prop where
  leading : minimized.kept <+: full.kept
  left : ∀ pair ∈ full.kept.drop minimized.kept.length, ∃ placeholder, pair.1 = .slot placeholder ∧
    (placeholder.effective given).map Value.form = placeholder.default.map Value.form

theorem keeping_shortens (route : Route) (given : Params) :
    Shortens given (route.keeping given false) (route.keeping given true) := by
  constructor
  · exact (keep_minimized given route.segments).map _
  · intro pair member
    rw [Route.keeping, Route.keeping, List.length_map, ← List.map_drop] at member
    obtain ⟨segment, left, same⟩ := List.mem_map.mp member
    rw [← same]
    exact left_out_default given route.segments segment left

theorem keeping_path_prefix (route : Route) (given : Params) (appendSlash : Bool) :
    ((route.keeping given true).path appendSlash).toList <+: ((route.keeping given false).path appendSlash).toList := by
  rw [keeping_path, keeping_path]
  apply written_path_prefix
  exact (keep_minimized given route.segments).flatMap _

def Call.registers : Call → Bool
  | .register _ _ => true
  | _ => false

-- Routers with the same routes under the same names, to which registrations do the same.
structure SameTable (a b : Router) : Prop where
  routes : a.routes = b.routes
  names : a.names = b.names
  explicit : a.config.explicit = b.config.explicit

section Tables

variable (a b : Router)

theorem same_table_register (same : SameTable a b) (name : Option String) (declaration : Declaration) :
    SameTable (a.register name declaration).1 (b.register name declaration).1 ∧
      (a.register name declaration).2.2 = (b.register name declaration).2.2 := by
  rw [Router.register, Router.register, same.names, same.routes, same.explicit]
  cases name.filter b.names.contains with
  | some taken => exact ⟨same, rfl⟩
  | none =>
      cases Route.ofDeclaration declaration b.config.explicit b.routes.length name with
      | error error => exact ⟨same, rfl⟩
      | ok route =>
          refine ⟨⟨?_, ?_, same.explicit⟩, rfl⟩
          · exact congrArg (· ++ [route]) same.routes
          · simp only [Router.append, same.routes, same.names]

-- Between registrations nothing happens to a table.
theorem same_table_quiet (call : Call) (quiet : call.registers = false) :
    SameTable (a.answer call).1 a ∧ ∀ reply, Registration.of? (call, reply) = none := by
  rcases call.kinds with ⟨name, declaration, same⟩ | ⟨given, same⟩ | reads
  · subst same
    cases quiet
  · subst same
    obtain ⟨cache, same⟩ := a.path_frame given
    have left : (a.answer (.path given)).1 = { a with cache := cache } := same
    rw [left]
    exact ⟨⟨rfl, rfl, rfl⟩, fun _ => rfl⟩
  · rw [a.answer_reads call reads]
    exact ⟨⟨rfl, rfl, rfl⟩, fun reply => read_registers_nothing call reply reads⟩

theorem same_table_step (same : SameTable a b) (call : Call) :
    SameTable (a.answer call).1 (b.answer call).1 ∧
      Registration.of? (call, (a.answer call).2.2) = Registration.of? (call, (b.answer call).2.2) := by
  cases kind : call.registers with
  | true =>
      cases call with
      | register name declaration =>
          obtain ⟨table, outcome⟩ := same_table_register a b same name declaration
          exact ⟨table, congrArg (fun outcome => Registration.of? (.register name declaration, .registered outcome)) outcome⟩
      | _ => cases kind
  | false =>
      obtain ⟨first, nothing⟩ := same_table_quiet a call kind
      obtain ⟨second, _⟩ := same_table_quiet b call kind
      refine ⟨⟨?_, ?_, ?_⟩, by rw [nothing, nothing]⟩
      · rw [first.routes, second.routes, same.routes]
      · rw [first.names, second.names, same.names]
      · rw [first.explicit, second.explicit, same.explicit]

theorem registrations_same (same : SameTable a b) (calls : List Call) :
    registrations calls (a.replies calls) = registrations calls (b.replies calls) := by
  induction calls generalizing a b with
  | nil => rfl
  | cons call rest ih =>
      obtain ⟨table, registration⟩ := same_table_step a b same call
      rw [registrations_cons, registrations_cons, registration, ih _ _ table]

theorem registrations_filter (calls : List Call) :
    registrations calls (a.replies calls) =
      registrations (calls.filter (·.registers)) (a.replies (calls.filter (·.registers))) := by
  induction calls generalizing a with
  | nil => rfl
  | cons call rest ih =>
      rw [registrations_cons, ih]
      cases kind : call.registers with
      | true => rw [List.filter_cons_of_pos kind, registrations_cons]
      | false =>
          obtain ⟨table, nothing⟩ := same_table_quiet a call kind
          rw [List.filter_cons_of_neg (Bool.eq_false_iff.mp kind), nothing, registrations_same _ a table]
          rfl

end Tables

def declared (config : Config) (calls : List Call) : List (Option String × Declaration) :=
  (registered config calls).map fun registration => (registration.name, registration.declaration)

theorem same_calls_declared (config other : Config) (explicit : config.explicit = other.explicit) (calls others : List Call)
    (same : calls.filter (·.registers) = others.filter (·.registers)) : declared config calls = declared other others := by
  have table : SameTable (Router.ofConfig config) (Router.ofConfig other) := ⟨rfl, rfl, explicit⟩
  rw [declared, declared, registered, registered, registrations_filter, registrations_filter _ others, same,
    registrations_same _ _ table]

theorem same_declared_routes (config other : Config) (explicit : config.explicit = other.explicit) (calls others : List Call)
    (same : declared config calls = declared other others) :
    (registered config calls).map (·.route) = (registered other others).map (·.route) := by
  have first := (records_of_config config calls).compiled
  have second := (records_of_config other others).compiled
  have lengths : (registered config calls).length = (registered other others).length := by
    simpa [declared] using congrArg List.length same
  apply List.ext_getElem (by simpa using lengths)
  intro i inside alsoInside
  rw [List.length_map] at inside alsoInside
  have pair : (registered config calls)[i].name = (registered other others)[i].name ∧
      (registered config calls)[i].declaration = (registered other others)[i].declaration := by
    have at_i := List.getElem_of_eq same (i := i) (by simpa [declared] using inside)
    simpa [declared] using at_i
  have compiled := first i _ (List.getElem?_eq_getElem inside)
  rw [pair.1, pair.2, explicit, second i _ (List.getElem?_eq_getElem alsoInside)] at compiled
  simpa using (Except.ok.inj compiled).symm

theorem first_path_minimized (appendSlash : Bool) (given : Params) (routes : List Route) (path : String)
    (found : firstPath ⟨false, appendSlash⟩ given routes = some path) :
    ∃ shorter, firstPath ⟨true, appendSlash⟩ given routes = some shorter := by
  obtain ⟨route, member, accepted⟩ := List.exists_of_findSome?_eq_some found
  apply Option.isSome_iff_exists.mp
  apply List.findSome?_isSome_iff.mpr
  refine ⟨route, member, ?_⟩
  have generated : route.path given ⟨false, appendSlash⟩ = .ok path := by
    cases outcome : route.path given ⟨false, appendSlash⟩ with
    | error rejection => simp [outcome, Except.toOption] at accepted
    | ok other =>
        rw [outcome] at accepted
        exact congrArg Except.ok (Option.some.inj accepted)
  have accepts := ((path_ok_iff route given _ path).mp generated).1
  rw [(path_ok_iff route given ⟨true, appendSlash⟩ _).mpr ⟨accepts_minimized route given accepts, rfl⟩]
  rfl

-- What minimizing changes of the answers of a route, and what not.
structure OnlyShortens (route : Route) (given : Params) (appendSlash : Bool) : Prop where
  accepted : ∀ path, route.path given ⟨false, appendSlash⟩ = .ok path →
    ∃ full minimized shorter, route.resolve given false = .ok full ∧ route.resolve given true = .ok minimized ∧
      Shortens given full minimized ∧ route.path given ⟨true, appendSlash⟩ = .ok shorter ∧ shorter.toList <+: path.toList
  rejected : ∀ rejection, rejection.early = true →
    (route.resolve given false = .error rejection ↔ route.resolve given true = .error rejection) ∧
    (route.path given ⟨false, appendSlash⟩ = .error rejection ↔ route.path given ⟨true, appendSlash⟩ = .error rejection)

def Config.minimizing (config : Config) (minimize : Bool) : Config := { config with minimize := minimize }

-- What it changes of the answers of tables. The same registrations, whatever else is called between them, are accepted with it and
-- without it; and where the same were accepted, there is an answer with it if there is one without it.
structure AnswersAsMuch (config : Config) : Prop where
  registers : ∀ calls others : List Call, calls.filter (·.registers) = others.filter (·.registers) →
    declared (config.minimizing false) calls = declared (config.minimizing true) others
  answered : ∀ calls others : List Call, declared (config.minimizing false) calls = declared (config.minimizing true) others →
    ∀ given path, pathAfter (config.minimizing false) calls given = some path →
      ∃ shorter, pathAfter (config.minimizing true) others given = some shorter

theorem minimizing_shortens :
    (∀ route given appendSlash, OnlyShortens route given appendSlash) ∧ ∀ config, AnswersAsMuch config := by
  constructor
  · intro route given appendSlash
    constructor
    · intro path generated
      obtain ⟨accepts, written⟩ := (path_ok_iff route given _ path).mp generated
      have minimized := accepts_minimized route given accepts
      refine ⟨_, _, _, (resolve_ok_iff route given false _).mpr ⟨accepts, rfl⟩,
        (resolve_ok_iff route given true _).mpr ⟨minimized, rfl⟩, keeping_shortens route given,
        (path_ok_iff route given ⟨true, appendSlash⟩ _).mpr ⟨minimized, rfl⟩, ?_⟩
      rw [written]
      exact keeping_path_prefix route given appendSlash
    · intro rejection early
      have same : route.resolve given false = .error rejection ↔ route.resolve given true = .error rejection := by
        rw [early_resolve_iff route given false rejection early, early_resolve_iff route given true rejection early]
      exact ⟨same, by rw [path_error_iff, path_error_iff]; exact same⟩
  · intro config
    have explicit : (config.minimizing false).explicit = (config.minimizing true).explicit := rfl
    constructor
    · intro calls others same
      exact same_calls_declared _ _ explicit calls others same
    · intro calls others same given path answered
      rw [path_after_eq] at answered
      obtain ⟨shorter, found⟩ := first_path_minimized config.appendSlash given _ path answered
      refine ⟨shorter, ?_⟩
      rw [path_after_eq, ← same_declared_routes _ _ explicit calls others same]
      exact found

-- A path cannot write the city without a region, and can leave out both.
def capital : Declaration where
  template := "c/:country/:region/:city"
  defaults := .ofList [("region", none), ("city", some (.text "rome"))]

def gazetteer : List Call := [.register none capital, .register none { template := ":country/*rest" }]

def country : Params := .ofList [("country", some (.text "it"))]

theorem minimizing_shortens_gazetteer :
    pathAfter (Config.minimizing {} false) gazetteer country = some "/it" ∧
      (∃ shorter, pathAfter (Config.minimizing {} true) (.path country :: gazetteer) country = some shorter) ∧
      pathAfter (Config.minimizing {} true) (.path country :: gazetteer) country = some "/c/it" ∧
      ∃ route, Route.ofDeclaration { template := "c/:country/:action" } false 0 none = .ok route ∧
        route.path country ⟨false, true⟩ = .ok "/c/it/index/" ∧ route.path country ⟨true, true⟩ = .ok "/c/it/" ∧
        OnlyShortens route country true :=
  ⟨rfl, (minimizing_shortens.2 {}).answered gazetteer (.path country :: gazetteer)
      ((minimizing_shortens.2 {}).registers _ _ rfl) country "/it" rfl, rfl,
    _, rfl, rfl, rfl, minimizing_shortens.1 _ country true⟩

end PathTemplates
