import PathTemplates.Proofs.Redeclaring

set_option autoImplicit false

/-!
The defaults that are implied. Unless defaults are to be explicit, dynamic placeholders named `action` and `id` have one that no
one declares. It does what it does if it is written out.
-/

namespace PathTemplates

-- A declaration with a default written out for a name, if it is the name of a dynamic placeholder without one.
def Declaration.writing (declaration : Declaration) (name : String) (slot : Option Value) : Declaration :=
  if .placeholder .dynamic name ∈ declaration.tokens ∧ declaration.defaults.declares name = false then
    declaration.declaring name slot
  else declaration

-- A declaration with the implied defaults written out.
def Declaration.written (declaration : Declaration) : Declaration :=
  (declaration.writing "action" (some (.text "index"))).writing "id" none

structure SameWork (a b : Route) : Prop where
  segments : a.segments = b.segments
  filters : a.filters = b.filters
  resolve : ∀ given minimize, a.resolve given minimize = b.resolve given minimize
  path : ∀ given options, a.path given options = b.path given options

theorem same_work (a b : Route) (segments : a.segments = b.segments) (filters : a.filters = b.filters) : SameWork a b := by
  have resolve (given : Params) (minimize : Bool) : a.resolve given minimize = b.resolve given minimize := by
    rw [Route.resolve, Route.resolve, segments, filters]
  refine ⟨segments, filters, resolve, ?_⟩
  intro given options
  rw [Route.path, Route.path, resolve]

section Writing

variable (declaration : Declaration) (name : String) (slot : Option Value)

@[simp] theorem writing_template : (declaration.writing name slot).template = declaration.template := by
  rw [Declaration.writing]
  split <;> rfl

@[simp] theorem writing_requirements : (declaration.writing name slot).requirements = declaration.requirements := by
  rw [Declaration.writing]
  split <;> rfl

@[simp] theorem writing_tokens : (declaration.writing name slot).tokens = declaration.tokens :=
  congrArg Token.ofTemplate (writing_template declaration name slot)

theorem writing_declares (query : String) :
    (declaration.writing name slot).defaults.declares query = true ↔
      (query = name ∧ .placeholder .dynamic name ∈ declaration.tokens) ∨ declaration.defaults.declares query = true := by
  rw [Declaration.writing]
  split
  · rename_i fresh
    simp [Declaration.declaring, fresh]
  · rename_i old
    by_cases same : query = name
    · subst same
      have declared (token : .placeholder .dynamic query ∈ declaration.tokens) : declaration.defaults.declares query = true := by
        by_contra undeclared
        exact old ⟨token, Bool.eq_false_iff.mpr undeclared⟩
      simpa using declared
    · simp [same]

theorem writing_presence (explicit : Bool) (kind : PlaceholderKind) (query : String) :
    (declaration.writing name slot).presence explicit kind query =
      if query = name ∧ .placeholder .dynamic name ∈ declaration.tokens ∧ declaration.defaults.declares name = false then
        .optional slot
      else declaration.presence explicit kind query := by
  rw [Declaration.writing]
  split
  · rename_i fresh
    by_cases same : query = name <;> simp [Declaration.presence, Declaration.declaring, same, fresh]
  · rename_i old
    simp [old]

theorem writing_filters (segments : List Segment) (names : segments.filterMap (·.name?) = namesOf declaration.tokens) :
    Route.filtersOf (declaration.writing name slot).defaults segments = Route.filtersOf declaration.defaults segments := by
  rw [Declaration.writing]
  split
  · rename_i fresh
    apply filters_declare
    rw [names]
    exact List.mem_filterMap.mpr ⟨_, fresh.1, rfl⟩
  · rfl

end Writing

section Written

variable (declaration : Declaration)

theorem written_id_declares :
    (declaration.writing "action" (some (.text "index"))).defaults.declares "id" = declaration.defaults.declares "id" := by
  apply Bool.eq_iff_iff.mpr
  simp [writing_declares]

-- Two tokens of one name would be an error. Of these the glob would get the default that is written out for the other.
theorem written_presence (kind : PlaceholderKind) (name : String) (token : .placeholder kind name ∈ declaration.tokens)
    (alone : kind = .glob → .placeholder .dynamic name ∉ declaration.tokens) :
    declaration.written.presence true kind name = declaration.presence false kind name := by
  rw [Declaration.written, writing_presence, writing_presence, written_id_declares, writing_tokens]
  cases kind with
  | glob =>
      have absent := alone rfl
      rw [if_neg, if_neg]
      · rfl
      · rintro ⟨rfl, inside, _⟩
        exact absent inside
      · rintro ⟨rfl, inside, _⟩
        exact absent inside
  | dynamic =>
      by_cases declared : declaration.defaults.declares name = true
      · rw [if_neg, if_neg]
        · simp [Declaration.presence, declared]
        · rintro ⟨rfl, _, undeclared⟩
          simp [declared] at undeclared
        · rintro ⟨rfl, _, undeclared⟩
          simp [declared] at undeclared
      · by_cases action : name = "action"
        · subst action
          simp [Declaration.presence, Template.impliedPresence, declared, token]
        · by_cases id : name = "id"
          · subst id
            simp [Declaration.presence, Template.impliedPresence, declared, token]
          · simp [Declaration.presence, Template.impliedPresence, declared, action, id]

section Globs

variable (explicit : Bool) (order : Nat) (name : Option String) (route : Route)
  (compiled : Route.ofDeclaration declaration explicit order name = .ok route)

include compiled

theorem glob_alone (placeholder : Placeholder) (member : placeholder ∈ route.placeholders) (glob : placeholder.kind = .glob) :
    .placeholder .dynamic placeholder.name ∉ declaration.tokens := by
  intro token
  obtain ⟨own, keeps⟩ := of_declaration_compiled declaration explicit order name route compiled
  rw [← own] at token
  obtain ⟨other, inside, dynamic, same⟩ := (token_iff_placeholder route keeps .dynamic placeholder.name).mp token
  rw [placeholder_of_name route keeps other placeholder inside member same, glob] at dynamic
  cases dynamic

theorem glob_undeclared (placeholder : Placeholder) (member : placeholder ∈ route.placeholders)
    (glob : placeholder.kind = .glob) (undeclared : declaration.defaults.declares placeholder.name = false) :
    placeholder.presence = .optional none ∧ declaration.written.defaults.declares placeholder.name = false := by
  have presence := compiled_presence declaration explicit order name route compiled placeholder member
  have alone := glob_alone declaration explicit order name route compiled placeholder member glob
  constructor
  · rw [presence, Declaration.presence, undeclared, glob]
    rfl
  · apply Bool.eq_false_iff.mpr
    rw [Declaration.written, Ne, writing_declares, writing_declares, writing_tokens]
    rintro (⟨same, token⟩ | ⟨same, token⟩ | declared)
    · exact alone (same ▸ token)
    · exact alone (same ▸ token)
    · simp [undeclared] at declared

end Globs

section Compiled

variable (order : Nat) (name : Option String) (route : Route)
  (compiled : Route.ofDeclaration declaration false order name = .ok route)

include compiled

theorem written_segments : route.segments.map (Segment.under declaration.written true) = route.segments := by
  obtain ⟨own, keeps⟩ := of_declaration_compiled declaration false order name route compiled
  have same : ∀ segment ∈ route.segments, segment.under declaration.written true = id segment := by
    intro segment inside
    cases segment with
    | literal text => rfl
    | slot placeholder =>
        have member := (mem_placeholders_iff route placeholder).mpr inside
        have token := (token_iff_placeholder route keeps placeholder.kind placeholder.name).mpr ⟨placeholder, member, rfl, rfl⟩
        have alone := glob_alone declaration false order name route compiled placeholder member
        have presence := compiled_presence declaration false order name route compiled placeholder member
        apply under_unchanged
        rw [written_presence declaration placeholder.kind placeholder.name (own ▸ token) alone, presence]
  rw [List.map_congr_left same, List.map_id]

theorem written_filters : Route.filtersOf declaration.written.defaults route.segments = route.filters := by
  obtain ⟨segments, outcome, same⟩ := (of_declaration_ok_iff declaration false order name route).mp compiled
  have names : segments.filterMap (·.name?) = namesOf declaration.tokens :=
    placed_names declaration false _ _ (segments_placed declaration false segments outcome)
  have first := writing_filters declaration "action" (some (.text "index")) segments names
  have second := writing_filters (declaration.writing "action" (some (.text "index"))) "id" none segments
    (by rw [names, writing_tokens])
  rw [same]
  exact second.trans first

end Compiled

theorem of_declaration_written (order : Nat) (name : Option String) :
    Route.ofDeclaration declaration.written true order name =
      (Route.ofDeclaration declaration false order name).map fun route => { route with declaration := declaration.written } := by
  have template : declaration.written.template = declaration.template := by simp [Declaration.written]
  have requirements : declaration.written.requirements = declaration.requirements := by simp [Declaration.written]
  rw [of_declaration_redeclared declaration declaration.written false true template requirements]
  cases compiled : Route.ofDeclaration declaration false order name with
  | error error => rfl
  | ok route =>
      simp only [Except.map, Route.under, written_segments declaration order name route compiled,
        written_filters declaration order name route compiled]

end Written

-- What stays if implied defaults are written out. A glob has none to be written out.
structure Shorthand (declaration : Declaration) (order : Nat) (name : Option String) : Prop where
  same : (∃ error, Route.ofDeclaration declaration false order name = .error error ∧
      Route.ofDeclaration declaration.written true order name = .error error) ∨
    ∃ route other, Route.ofDeclaration declaration false order name = .ok route ∧
      Route.ofDeclaration declaration.written true order name = .ok other ∧ SameWork route other
  globs : ∀ explicit route, Route.ofDeclaration declaration explicit order name = .ok route →
    ∀ placeholder ∈ route.placeholders, placeholder.kind = .glob → declaration.defaults.declares placeholder.name = false →
      placeholder.presence = .optional none ∧ declaration.written.defaults.declares placeholder.name = false

theorem implied_defaults_shorthand (declaration : Declaration) (order : Nat) (name : Option String) :
    Shorthand declaration order name := by
  constructor
  · have written := of_declaration_written declaration order name
    cases compiled : Route.ofDeclaration declaration false order name with
    | error error =>
        rw [compiled] at written
        exact .inl ⟨error, rfl, written⟩
    | ok route =>
        rw [compiled] at written
        exact .inr ⟨route, _, rfl, written, same_work route _ rfl rfl⟩
  · intro explicit route compiled placeholder member glob undeclared
    exact glob_undeclared declaration explicit order name route compiled placeholder member glob undeclared

example : (Declaration.written { template := ":controller/:action/*id" }).defaults =
    .ofList [("action", some (.text "index"))] := rfl

example : (Declaration.written { template := "*action/:id", defaults := .ofList [("id", some (.int 0))] }).defaults =
    .ofList [("id", some (.int 0))] := rfl

end PathTemplates
