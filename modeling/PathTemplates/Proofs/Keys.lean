import PathTemplates.Proofs.Answers

set_option autoImplicit false

/-!
The key of parameters says of them exactly what routes can tell. Parameters of one key get the same answers from all routes, and
for two keys there is a route that accepts the parameters of one of them alone.
-/

namespace PathTemplates

namespace Params

theorem key_eq_iff_forms (p q : Params) : p.key = q.key ↔ ∀ name, p.form? name = q.form? name := by
  refine ⟨forms_of_key p q, fun same => ?_⟩
  refine NameMap.lookup_ext p.key q.key p.key_ascending q.key_ascending fun name => ?_
  rw [key_lookup, key_lookup, same]

theorem mem_key_iff (params : Params) (name form : String) :
    (name, form) ∈ params.key ↔ ∃ value, params.value? name = some value ∧ value.form = form := by
  rw [NameMap.mem_iff_lookup params.key params.key_ascending, key_lookup, form?, Option.map_eq_some_iff]

-- A default that one of two parameters has the form of, or the absence of one that the other lacks, tells them apart.
theorem forms_told_apart (p q : Params) (name : String) (different : p.form? name ≠ q.form? name) :
    ∃ default, p.differs name default ≠ q.differs name default := by
  unfold differs
  cases first : p.form? name with
  | none =>
      cases second : q.form? name with
      | none => exact absurd (first.trans second.symm) different
      | some form => exact ⟨none, by simp⟩
  | some form =>
      cases second : q.form? name with
      | none => exact ⟨none, by simp⟩
      | some other =>
          have unlike : other ≠ form := fun equal => different (by rw [first, second, equal])
          exact ⟨some (.text form), by simp [Value.form, unlike]⟩

end Params

-- A route for the root alone that filters one name.
def filtering (name : String) (default : Option Value) : Declaration :=
  { template := "", defaults := .ofList [(name, default)] }

def filteringRoute (name : String) (default : Option Value) : Route :=
  ⟨filtering name default, none, 0, [], [(name, default)]⟩

theorem filtering_path (name : String) (default : Option Value) (given : Params) (options : PathOptions) :
    (filteringRoute name default).path given options =
      if given.differs name default then .error (.filterMismatch name) else .ok "/" := by
  rw [Route.path, Route.resolve, filteringRoute, mismatch_cons]
  cases given.differs name default <;> rfl

theorem first_path_filtering (name : String) (default : Option Value) (given : Params) (options : PathOptions) :
    firstPath options given [filteringRoute name default] = if given.differs name default then none else some "/" := by
  rw [firstPath, List.findSome?_cons, filtering_path]
  cases given.differs name default <;> rfl

theorem keys_told_apart (options : PathOptions) (p q : Params) (different : p.key ≠ q.key) :
    ∃ name default,
      firstPath options p [filteringRoute name default] ≠ firstPath options q [filteringRoute name default] := by
  obtain ⟨name, unlike⟩ : ∃ name, p.form? name ≠ q.form? name := by
    by_contra same
    exact different ((Params.key_eq_iff_forms p q).mpr fun name => not_not.mp fun unlike => same ⟨name, unlike⟩)
  obtain ⟨default, apart⟩ := Params.forms_told_apart p q name unlike
  refine ⟨name, default, ?_⟩
  rw [first_path_filtering, first_path_filtering]
  cases first : p.differs name default with
  | false =>
      have second : q.differs name default = true := by simpa [first] using apart
      simp [second]
  | true =>
      have second : q.differs name default = false := by simpa [first] using apart
      simp [second]

namespace Router

-- The router after registrations alone, accepted or not.
def registering (config : Config) (registrations : List (Option String × Declaration)) : Router :=
  (ofConfig config).after (registrations.map fun (name, declaration) => .register name declaration)

theorem registering_answer (config : Config) (registrations : List (Option String × Declaration)) (given : Params) :
    ((registering config registrations).path given).2.2 =
      firstPath (registering config registrations).config.pathOptions given (registering config registrations).routes :=
  path_answer _ given ((ofConfig config).sound_run _ (sound_of_config config))

theorem registering_filter (config : Config) (name : String) (default : Option Value) (given : Params) :
    ((registering config [(none, filtering name default)]).path given).2.2 =
      firstPath config.pathOptions given [filteringRoute name default] := by
  have settings : (registering config [(none, filtering name default)]).config = config := rfl
  have routes : (registering config [(none, filtering name default)]).routes = [filteringRoute name default] := rfl
  rw [registering_answer, settings, routes]

end Router

theorem key_decides_answers (p q : Params) :
    (∀ config, p.key = q.key ↔ ∀ registrations,
      ((Router.registering config registrations).path p).2.2 = ((Router.registering config registrations).path q).2.2) ∧
    (∀ options, p.key = q.key ↔ ∀ routes, firstPath options p routes = firstPath options q routes) ∧
    p.key.Pairwise (fun a b => a.1 < b.1) ∧
    ∀ name form, (name, form) ∈ p.key ↔ ∃ value, p.value? name = some value ∧ value.form = form := by
  refine ⟨fun config => ⟨fun same registrations => ?_, fun alike => ?_⟩,
    fun options => ⟨fun same routes => first_path_same_key options p q routes same, fun alike => ?_⟩,
    p.key_ascending, p.mem_key_iff⟩
  · rw [Router.registering_answer, Router.registering_answer, first_path_same_key _ p q _ same]
  · by_contra different
    obtain ⟨name, default, apart⟩ := keys_told_apart config.pathOptions p q different
    rw [← Router.registering_filter, ← Router.registering_filter] at apart
    exact apart (alike [(none, filtering name default)])
  · by_contra different
    obtain ⟨name, default, apart⟩ := keys_told_apart options p q different
    exact apart (alike [filteringRoute name default])

end PathTemplates
