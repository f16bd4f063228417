import PathTemplates.Proofs.Attribution
import PathTemplates.Proofs.Derived

set_option autoImplicit false

/-!
A derived requirement refuses a value before anything behind it finds fault with the components of the value. So a placeholder
that no pattern is declared of is never why a path cannot be written, unless it has no value at all.
-/

namespace PathTemplates

-- What resolving never comes to on account of a placeholder, and what it comes to where a component of its value is empty.
structure Screened (given : Params) (placeholder : Placeholder) (outcome : Except Rejection Resolution) : Prop where
  components : ∀ value, outcome ≠ .error (.emptyComponent placeholder.name value)
  present : ∀ value, placeholder.effective given = some value → outcome ≠ .error (.missingValue placeholder.name)
  glob : placeholder.kind = .glob → ∀ value, outcome ≠ .error (.requirementFailed placeholder.name value)
  refused : placeholder.kind = .dynamic → ∀ value, placeholder.effective given = some value →
    value.form = "" ∨ "" ∈ Text.pieces value.form →
    (∃ name, outcome = .error (.filterMismatch name)) ∨ ∃ name form, outcome = .error (.requirementFailed name form)

section Told

variable (route : Route) (given : Params) (minimize : Bool) (ascending : route.filters.Pairwise fun a b => a.1 < b.1)
  (name value : String)

include ascending

-- Nothing is said of what is kept before every requirement is met.
theorem resolve_empty_component (refused : route.resolve given minimize = .error (.emptyComponent name value)) :
    (∀ placeholder ∈ route.placeholders, ∀ form, ¬ Failing given placeholder form) ∧
      ∃ placeholder ∈ route.placeholders, placeholder.name = name ∧ placeholder.kind = .dynamic ∧
        (placeholder.effective given).map Value.form = some value ∧ "" ∈ Text.pieces value := by
  have reached := resolved_outcome route given minimize ascending
  rw [refused] at reached
  cases reached with
  | flaw count before segment after rejection matched admitted least split quiet flawed =>
      have inside : segment ∈ route.segments := List.mem_of_mem_take (split ▸ List.mem_append_right before List.mem_cons_self)
      cases flawed with
      | emptyComponent placeholder _ dynamic form _ lacking =>
          exact ⟨admitted, placeholder, (mem_placeholders_iff route placeholder).mpr inside, rfl, dynamic, form, lacking⟩

theorem resolve_missing_value (refused : route.resolve given minimize = .error (.missingValue name)) :
    (∀ placeholder ∈ route.placeholders, ∀ form, ¬ Failing given placeholder form) ∧
      ∃ placeholder ∈ route.placeholders, placeholder.name = name ∧ placeholder.kind = .dynamic ∧
        (placeholder.effective given = none ∨ (placeholder.effective given).map Value.form = some "") := by
  have reached := resolved_outcome route given minimize ascending
  rw [refused] at reached
  cases reached with
  | flaw count before segment after rejection matched admitted least split quiet flawed =>
      have inside : segment ∈ route.segments := List.mem_of_mem_take (split ▸ List.mem_append_right before List.mem_cons_self)
      cases flawed with
      | absent placeholder dynamic missing =>
          exact ⟨admitted, placeholder, (mem_placeholders_iff route placeholder).mpr inside, rfl, dynamic, .inl missing⟩
      | empty placeholder dynamic form =>
          exact ⟨admitted, placeholder, (mem_placeholders_iff route placeholder).mpr inside, rfl, dynamic, .inr form⟩

theorem resolve_requirement_failed (refused : route.resolve given minimize = .error (.requirementFailed name value)) :
    ∃ placeholder ∈ route.placeholders, placeholder.name = name ∧ Failing given placeholder value := by
  have reached := resolved_outcome route given minimize ascending
  rw [refused] at reached
  cases reached with
  | failure before placeholder after _ matched split quiet failing =>
      exact ⟨placeholder, split ▸ List.mem_append_right before List.mem_cons_self, rfl, failing⟩
  | flaw count before segment after rejection matched admitted least split quiet flawed => cases flawed

-- No value that its requirement does not admit is passed over.
theorem resolve_failing (placeholder : Placeholder) (member : placeholder ∈ route.placeholders)
    (failing : Failing given placeholder value) :
    (∃ other, route.resolve given minimize = .error (.filterMismatch other)) ∨
      ∃ other form, route.resolve given minimize = .error (.requirementFailed other form) := by
  have reached := resolved_outcome route given minimize ascending
  generalize route.resolve given minimize = outcome at reached
  cases reached with
  | mismatch other mismatched least => exact .inl ⟨other, rfl⟩
  | failure before other after form matched split quiet first => exact .inr ⟨other.name, form, rfl⟩
  | flaw count before segment after rejection matched admitted least split quiet flawed =>
      exact absurd failing (admitted placeholder member value)
  | kept count matched admitted least sound => exact absurd failing (admitted placeholder member value)

end Told

theorem derived_dynamic_pieces (name value : String)
    (admitted : (Template.derivedRequirement .dynamic name).admits value = true) : "" ∉ Text.pieces value := by
  intro lacking
  rw [Template.derivedRequirement] at admitted
  by_cases controller : name = "controller"
  · rw [if_pos controller] at admitted
    exact (Requirement.many_components_admits_iff value).mp admitted "" lacking rfl
  · rw [if_neg controller] at admitted
    obtain ⟨named, noSlash⟩ := (Requirement.one_component_admits_iff value).mp admitted
    rw [Text.pieces_single value noSlash] at lacking
    exact named (List.mem_singleton.mp lacking).symm

section Screened

variable (declaration : Declaration) (explicit : Bool) (order : Nat) (name : Option String) (route : Route)
  (compiled : Route.ofDeclaration declaration explicit order name = .ok route) (given : Params) (placeholder : Placeholder)
  (member : placeholder ∈ route.placeholders) (undeclared : placeholder.requirement.explicit = false)

include compiled member undeclared

theorem undeclared_fails (dynamic : placeholder.kind = .dynamic) (value : String)
    (form : (placeholder.effective given).map Value.form = some value) (lacking : "" ∈ Text.pieces value) :
    Failing given placeholder value := by
  refine ⟨form, Bool.eq_false_iff.mpr fun admitted => ?_⟩
  rw [compiled_derived declaration explicit order name route compiled placeholder member undeclared, dynamic] at admitted
  exact derived_dynamic_pieces placeholder.name value admitted lacking

theorem undeclared_screened (minimize : Bool) : Screened given placeholder (route.resolve given minimize) := by
  have ascending := filters_ascending declaration explicit order name route compiled
  have keeps := (of_declaration_compiled declaration explicit order name route compiled).2
  have fails := undeclared_fails declaration explicit order name route compiled given placeholder member undeclared
  have empty : "" ∈ Text.pieces "" := List.mem_singleton_self ""
  refine ⟨fun value refused => ?_, fun value present refused => ?_, fun glob value refused => ?_,
    fun dynamic value present lacking => ?_⟩
  · obtain ⟨admitted, other, inside, named, dynamic, form, lacking⟩ :=
      resolve_empty_component route given minimize ascending placeholder.name value refused
    cases placeholder_of_name route keeps other placeholder inside member named
    exact admitted placeholder member value (fails dynamic value form lacking)
  · obtain ⟨admitted, other, inside, named, dynamic, either⟩ :=
      resolve_missing_value route given minimize ascending placeholder.name refused
    cases placeholder_of_name route keeps other placeholder inside member named
    rcases either with absent | form
    · rw [present] at absent
      cases absent
    · exact admitted placeholder member "" (fails dynamic "" form empty)
  · obtain ⟨other, inside, named, _, failed⟩ :=
      resolve_requirement_failed route given minimize ascending placeholder.name value refused
    cases placeholder_of_name route keeps other placeholder inside member named
    rw [compiled_derived declaration explicit order name route compiled placeholder member undeclared, glob] at failed
    cases failed.symm.trans (Requirement.anything_admits value)
  · have form : (placeholder.effective given).map Value.form = some value.form := by rw [present, Option.map_some]
    have piece : "" ∈ Text.pieces value.form := lacking.elim (fun same => same ▸ empty) id
    exact resolve_failing route given minimize ascending value.form placeholder member (fails dynamic value.form form piece)

end Screened

theorem derived_requirements_screen :
    (∀ name value, name ≠ "controller" →
      ((Template.derivedRequirement .dynamic name).admits value = true ↔ value ≠ "" ∧ '/' ∉ value.toList)) ∧
    (∀ value, (Template.derivedRequirement .dynamic "controller").admits value = true ↔
      ∀ piece ∈ Text.pieces value, piece ≠ "") ∧
    (∀ name value, (Template.derivedRequirement .glob name).admits value = true) ∧
    (∀ kind name, ∃ pattern, Regex.Expression (Template.derivedRequirement kind name).source pattern ∧
      ∀ value, pattern.matchesIn value = (Template.derivedRequirement kind name).admits value) ∧
    ∀ declaration explicit order name route, Route.ofDeclaration declaration explicit order name = .ok route →
      ∀ given minimize, ∀ placeholder ∈ route.placeholders, placeholder.requirement.explicit = false →
        Screened given placeholder (route.resolve given minimize) := by
  refine ⟨fun name value other => ?_, Requirement.many_components_admits_iff, fun _ => Requirement.anything_admits,
    derived_source, ?_⟩
  · rw [Template.derivedRequirement, if_neg other]
    exact Requirement.one_component_admits_iff value
  · intro declaration explicit order name route compiled given minimize placeholder member undeclared
    exact undeclared_screened declaration explicit order name route compiled given placeholder member undeclared minimize

-- A line end is a character like any other, and a controller with an empty component is not kept to be checked for one.
def gallery : Declaration where
  template := "gallery/:controller/:page/*rest"

def galleryController : Placeholder := ⟨.dynamic, "controller", .manyComponents, .required⟩

def galleryRequest : Params := .ofList [("controller", some (.text "admin//user")), ("page", some (.text "\n"))]

theorem derived_requirements_screen_gallery :
    "page" ≠ "controller" ∧ (Template.derivedRequirement .dynamic "page").admits "\n" = true ∧
      ∃ route, Route.ofDeclaration gallery true 0 none = .ok route ∧ galleryController ∈ route.placeholders ∧
        galleryController.requirement.explicit = false ∧
        Screened galleryRequest galleryController (route.resolve galleryRequest true) ∧
        route.resolve galleryRequest true = .error (.requirementFailed "controller" "admin//user") := by
  obtain ⟨oneComponent, _, _, _, screened⟩ := derived_requirements_screen
  have other : "page" ≠ "controller" := by decide
  have member : galleryController ∈ Route.placeholders ⟨gallery, none, 0,
      [.literal "gallery", .slot galleryController, .slot ⟨.dynamic, "page", .oneComponent, .required⟩,
        .slot ⟨.glob, "rest", .anything, .optional none⟩], []⟩ := List.mem_cons_self
  refine ⟨other, (oneComponent "page" "\n" other).mpr (by decide), _, rfl, member, rfl, ?_, rfl⟩
  exact screened gallery true 0 none _ rfl galleryRequest true galleryController member rfl

end PathTemplates
