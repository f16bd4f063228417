import PathTemplates.Proofs.Outcome
import PathTemplates.Proofs.Redeclaring

set_option autoImplicit false

/-!
Where the parts of a declaration go. A declared default becomes the default of the one placeholder of its name or the one filter
of its name, and a declared pattern becomes the requirement of the one placeholder of its name. What is not declared of a
placeholder follows from its kind and its name.
-/

namespace PathTemplates

-- The default that a placeholder has of itself, where none is declared of it.
inductive OwnDefault (explicit : Bool) : PlaceholderKind → String → Option Value → Prop
  | glob (name : String) : OwnDefault explicit .glob name none
  | action : explicit = false → OwnDefault explicit .dynamic "action" (some (.text "index"))
  | id : explicit = false → OwnDefault explicit .dynamic "id" none

-- What a route has of the defaults and the patterns that are declared, and what it has where none are.
structure Attributed (declaration : Declaration) (explicit : Bool) (route : Route) : Prop where
  defaults : ∀ name slot, declaration.defaults.slots.get? name = some slot →
    (∃ placeholder, route.placeholders.filter (·.name = name) = [placeholder] ∧ placeholder.presence = .optional slot ∧
        name ∉ route.filters.map (·.1)) ∨
      route.filters.filter (·.1 = name) = [(name, slot)] ∧ name ∉ route.placeholders.map (·.name)
  filters : ∀ name slot, (name, slot) ∈ route.filters → declaration.defaults.slots.get? name = some slot
  ascending : route.filters.Pairwise fun a b => a.1 < b.1
  requirements : ∀ name pattern, declaration.requirements.pattern? name = some pattern →
    ∃ placeholder compiled, route.placeholders.filter (·.name = name) = [placeholder] ∧
      Regex.Pattern.ofSource (Requirement.anchored pattern) = .ok compiled ∧
      placeholder.requirement = ⟨Requirement.anchored pattern, compiled, true⟩
  derived : ∀ placeholder ∈ route.placeholders, declaration.requirements.pattern? placeholder.name = none →
    placeholder.requirement = Template.derivedRequirement placeholder.kind placeholder.name
  implied : ∀ placeholder ∈ route.placeholders, declaration.defaults.declares placeholder.name = false →
    ∀ default, placeholder.presence = .optional default ↔ OwnDefault explicit placeholder.kind placeholder.name default

theorem filter_by_name {α : Type} (list : List α) (name : α → String) (distinct : (list.map name).Nodup) (a : α)
    (member : a ∈ list) : list.filter (name · = name a) = [a] := by
  apply List.perm_singleton.mp
  apply (List.perm_ext_iff_of_nodup ((List.Nodup.of_map name distinct).filter _) (List.nodup_singleton a)).mpr
  intro b
  rw [List.mem_filter, decide_eq_true_eq, List.mem_singleton]
  constructor
  · intro ⟨other, same⟩
    exact List.inj_on_of_nodup_map distinct other member same
  · intro same
    rw [same]
    exact ⟨member, rfl⟩

theorem implied_presence_iff (explicit : Bool) (kind : PlaceholderKind) (name : String) (default : Option Value) :
    Template.impliedPresence explicit kind name = .optional default ↔ OwnDefault explicit kind name default := by
  constructor
  · intro implied
    cases kind with
    | glob =>
        cases implied
        exact .glob name
    | dynamic =>
        cases explicit with
        | true => cases implied
        | false =>
            by_cases action : name = "action"
            · subst action
              cases implied
              exact .action rfl
            · by_cases identifier : name = "id"
              · subst identifier
                cases implied
                exact .id rfl
              · simp [Template.impliedPresence, action, identifier] at implied
  · intro own
    cases own with
    | glob => rfl
    | action off => rw [off]; rfl
    | id off => rw [off]; rfl

theorem requirement_declared (pattern : String) (kind : PlaceholderKind) (name : String) (requirement : Requirement)
    (compiled : Template.requirement (some pattern) kind name = .ok requirement) :
    ∃ meant, Regex.Pattern.ofSource (Requirement.anchored pattern) = .ok meant ∧
      requirement = ⟨Requirement.anchored pattern, meant, true⟩ := by
  simp only [Template.requirement, Requirement.ofPattern?] at compiled
  cases outcome : Regex.Pattern.ofSource (Requirement.anchored pattern) with
  | error fault =>
      rw [outcome] at compiled
      cases compiled
  | ok meant =>
      rw [outcome] at compiled
      cases compiled
      exact ⟨meant, rfl, rfl⟩

-- A literal is no slot, and joining it to the one behind it changes none.
theorem slot_cons_literal (text : String) (segments : List Segment) (placeholder : Placeholder)
    (member : .slot placeholder ∈ Template.consLiteral text segments) : .slot placeholder ∈ segments := by
  cases segments with
  | nil => simp [Template.consLiteral] at member
  | cons first rest => cases first <;> simpa [Template.consLiteral] using member

theorem placed_slot (declaration : Declaration) (explicit : Bool) (tokens : List Token) (segments : List Segment)
    (placed : Placed declaration explicit tokens segments) (placeholder : Placeholder)
    (member : .slot placeholder ∈ segments) :
    Template.placeholder declaration explicit placeholder.kind placeholder.name = .ok placeholder := by
  induction placed with
  | nil => cases member
  | literal text rest segments _ ih => exact ih (slot_cons_literal text segments placeholder member)
  | slot first rest segments outcome _ ih =>
      rcases List.mem_cons.mp member with here | later
      · cases here
        exact outcome
      · exact ih later

section Compiled

variable (declaration : Declaration) (explicit : Bool) (order : Nat) (name : Option String) (route : Route)
  (compiled : Route.ofDeclaration declaration explicit order name = .ok route)

include compiled

theorem compiled_requirement (placeholder : Placeholder) (member : placeholder ∈ route.placeholders) :
    Template.requirement (declaration.requirements.pattern? placeholder.name) placeholder.kind placeholder.name =
      .ok placeholder.requirement := by
  obtain ⟨segments, outcome, same⟩ := (of_declaration_ok_iff declaration explicit order name route).mp compiled
  have inside : .slot placeholder ∈ segments := by
    rw [same] at member
    exact (mem_placeholders_iff _ placeholder).mp member
  have placed := placed_slot declaration explicit _ segments (segments_placed declaration explicit segments outcome) placeholder inside
  unfold Template.placeholder at placed
  cases made : Template.requirement (declaration.requirements.pattern? placeholder.name) placeholder.kind placeholder.name with
  | error error =>
      rw [made] at placed
      cases placed
  | ok requirement =>
      rw [made] at placed
      exact congrArg (fun placeholder => Except.ok placeholder.requirement) (Except.ok.inj placed)

-- The requirement of a placeholder that no pattern is declared of is the derived one.
theorem compiled_derived (placeholder : Placeholder) (member : placeholder ∈ route.placeholders)
    (given : placeholder.requirement.explicit = false) :
    placeholder.requirement = Template.derivedRequirement placeholder.kind placeholder.name := by
  have made := compiled_requirement declaration explicit order name route compiled placeholder member
  cases declared : declaration.requirements.pattern? placeholder.name with
  | none =>
      rw [declared] at made
      exact (Except.ok.inj made).symm
  | some pattern =>
      rw [declared] at made
      obtain ⟨meant, _, same⟩ := requirement_declared pattern _ _ _ made
      rw [same] at given
      cases given

theorem compiled_names : (route.placeholders.map (·.name)).Nodup := by
  rw [placeholder_names]
  exact (of_declaration_compiled declaration explicit order name route compiled).2.distinct

theorem placeholder_alone (placeholder : Placeholder) (member : placeholder ∈ route.placeholders) :
    route.placeholders.filter (·.name = placeholder.name) = [placeholder] :=
  filter_by_name route.placeholders (·.name) (compiled_names declaration explicit order name route compiled) placeholder member

theorem mem_filters_iff (query : String) (slot : Option Value) :
    (query, slot) ∈ route.filters ↔
      declaration.defaults.slots.get? query = some slot ∧ query ∉ route.placeholders.map (·.name) := by
  obtain ⟨segments, _, same⟩ := (of_declaration_ok_iff declaration explicit order name route).mp compiled
  rw [placeholder_names, same, ← NameMap.mem_iff_get]
  simp [Route.filtersOf, Params.toList]

theorem default_attributed (query : String) (slot : Option Value)
    (declared : declaration.defaults.slots.get? query = some slot) :
    (∃ placeholder, route.placeholders.filter (·.name = query) = [placeholder] ∧ placeholder.presence = .optional slot ∧
        query ∉ route.filters.map (·.1)) ∨
      route.filters.filter (·.1 = query) = [(query, slot)] ∧ query ∉ route.placeholders.map (·.name) := by
  have filter_iff := mem_filters_iff declaration explicit order name route compiled query
  by_cases taken : query ∈ route.placeholders.map (·.name)
  · obtain ⟨placeholder, member, named⟩ := List.mem_map.mp taken
    subst named
    refine .inl ⟨placeholder, placeholder_alone declaration explicit order name route compiled placeholder member, ?_, ?_⟩
    · rw [compiled_presence declaration explicit order name route compiled placeholder member, Declaration.presence,
        Params.declares, NameMap.contains, Params.value?, declared]
      rfl
    · intro filtered
      obtain ⟨⟨_, other⟩, inside, rfl⟩ := List.mem_map.mp filtered
      exact ((filter_iff other).mp inside).2 taken
  · have ascending := filters_ascending declaration explicit order name route compiled
    have distinct := NameMap.ascending_distinct route.filters ascending
    refine .inr ⟨?_, taken⟩
    exact filter_by_name route.filters (·.1) distinct (query, slot) ((filter_iff slot).mpr ⟨declared, taken⟩)

theorem pattern_attributed (query pattern : String) (declared : declaration.requirements.pattern? query = some pattern) :
    ∃ placeholder meant, route.placeholders.filter (·.name = query) = [placeholder] ∧
      Regex.Pattern.ofSource (Requirement.anchored pattern) = .ok meant ∧
      placeholder.requirement = ⟨Requirement.anchored pattern, meant, true⟩ := by
  have grammatical := (of_declaration_accepts_iff declaration explicit order name).mp ⟨route, compiled⟩
  obtain ⟨own, keeps⟩ := of_declaration_compiled declaration explicit order name route compiled
  obtain ⟨kind, token⟩ := (mem_names declaration.tokens query).mp (grammatical.known query pattern declared)
  rw [← own] at token
  obtain ⟨placeholder, member, _, rfl⟩ := (token_iff_placeholder route keeps kind query).mp token
  have made := compiled_requirement declaration explicit order name route compiled placeholder member
  rw [declared] at made
  obtain ⟨meant, read, same⟩ := requirement_declared pattern _ _ _ made
  exact ⟨placeholder, meant, placeholder_alone declaration explicit order name route compiled placeholder member, read, same⟩

end Compiled

theorem declarations_attributed_once (declaration : Declaration) (explicit : Bool) (order : Nat) (name : Option String)
    (route : Route) (compiled : Route.ofDeclaration declaration explicit order name = .ok route) :
    Attributed declaration explicit route where
  defaults := default_attributed declaration explicit order name route compiled
  filters := fun query slot member => ((mem_filters_iff declaration explicit order name route compiled query slot).mp member).1
  ascending := filters_ascending declaration explicit order name route compiled
  requirements := pattern_attributed declaration explicit order name route compiled
  derived := fun placeholder member undeclared => by
    have made := compiled_requirement declaration explicit order name route compiled placeholder member
    rw [undeclared] at made
    exact (Except.ok.inj made).symm
  implied := fun placeholder member undeclared default => by
    have presence := compiled_presence declaration explicit order name route compiled placeholder member
    rw [presence, Declaration.presence, undeclared, if_neg Bool.false_ne_true]
    exact implied_presence_iff explicit placeholder.kind placeholder.name default

-- The day has a declared default and a declared pattern, action and rest have neither, and no placeholder is named zone or lang.
def ledger : Declaration where
  template := "ledger/:action/:day/*rest"
  defaults := .ofList [("zone", some (.int 1)), ("day", none), ("lang", none)]
  requirements := .ofList [("day", "[ab]")]

def oneOfTwo : Requirement where
  source := "^(?:[ab])$"
  pattern := .cat (.look .textStart) (.cat (.group false (.one ⟨[⟨0x61, 0x62⟩]⟩)) (.look .textStop))
  explicit := true

def ledgerRoute : Route where
  declaration := ledger
  name := none
  order := 0
  segments := [.literal "ledger", .slot ⟨.dynamic, "action", .oneComponent, .optional (some (.text "index"))⟩,
    .slot ⟨.dynamic, "day", oneOfTwo, .optional none⟩, .slot ⟨.glob, "rest", .anything, .optional none⟩]
  filters := [("lang", none), ("zone", some (.int 1))]

theorem declarations_attributed_once_in_ledger :
    Route.ofDeclaration ledger false 0 none = .ok ledgerRoute ∧ Attributed ledger false ledgerRoute := by
  have compiled : Route.ofDeclaration ledger false 0 none = .ok ledgerRoute := by decide +kernel
  exact ⟨compiled, declarations_attributed_once ledger false 0 none ledgerRoute compiled⟩

end PathTemplates
