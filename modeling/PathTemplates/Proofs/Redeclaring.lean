import PathTemplates.Proofs.Tokens
import PathTemplates.Proofs.View

set_option autoImplicit false

/-!
What the defaults make of a route. The tokens of the template and the requirements alone decide whether there is one, or else the
error, and its segments. The defaults say which of these may be left out and what then stands in for them, and which names filter.
Of the template nothing but its tokens shows, unless an error tells it.
-/

namespace PathTemplates

-- What a declaration says of the presence of a placeholder.
def Declaration.presence (declaration : Declaration) (explicit : Bool) (kind : PlaceholderKind) (name : String) : Presence :=
  if declaration.defaults.declares name then .optional (declaration.defaults.value? name)
  else Template.impliedPresence explicit kind name

def Declaration.declaring (declaration : Declaration) (name : String) (slot : Option Value) : Declaration :=
  { declaration with defaults := declaration.defaults.declare name slot }

def Segment.withPresence (presence : Placeholder → Presence) : Segment → Segment
  | .literal text => .literal text
  | .slot placeholder => .slot { placeholder with presence := presence placeholder }

-- What becomes of a segment under another declaration of the same tokens and requirements.
def Segment.under (declaration : Declaration) (explicit : Bool) : Segment → Segment :=
  Segment.withPresence fun placeholder => declaration.presence explicit placeholder.kind placeholder.name

-- What is kept of segments that are given another presence.
def keepWithPresence (presence : Placeholder → Presence) (minimize : Bool) (given : Params) (segments : List Segment) :
    List Segment :=
  (segments.reverse.dropWhile fun segment => (segment.withPresence presence).droppable minimize given).reverse

def Route.under (declaration : Declaration) (explicit : Bool) (route : Route) : Route :=
  { route with
    declaration := declaration
    segments := route.segments.map (Segment.under declaration explicit)
    filters := Route.filtersOf declaration.defaults route.segments }

def RegistrationError.retold (template : String) : RegistrationError → RegistrationError
  | .emptyName _ => .emptyName template
  | .invalidName _ name => .invalidName template name
  | .duplicateSegment _ name => .duplicateSegment template name
  | .multipleGlobs _ => .multipleGlobs template
  | .globBeforeDynamic _ glob dynamic => .globBeforeDynamic template glob dynamic
  | .unknownRequirement _ name => .unknownRequirement template name
  | .invalidRequirement name pattern => .invalidRequirement name pattern
  | .duplicateRouteName name => .duplicateRouteName name

section Presence

variable (presence : Placeholder → Presence)

theorem names_with_presence (segments : List Segment) :
    (segments.map (Segment.withPresence presence)).filterMap (·.name?) = segments.filterMap (·.name?) := by
  rw [List.filterMap_map]
  congr 1
  funext segment
  cases segment <;> rfl

theorem cons_literal_with_presence (text : String) (segments : List Segment) :
    Template.consLiteral text (segments.map (Segment.withPresence presence)) =
      (Template.consLiteral text segments).map (Segment.withPresence presence) := by
  cases segments with
  | nil => rfl
  | cons first rest => cases first <;> rfl

-- The presence of a placeholder shows in the checks of its value only by the value that stands in for it.
theorem failure_with_presence (given : Params) (segments : List Segment)
    (same : ∀ segment ∈ segments, (segment.withPresence presence).form? given = segment.form? given) :
    Resolution.failure? (segments.map (Segment.withPresence presence)) given = Resolution.failure? segments given := by
  induction segments with
  | nil => rfl
  | cons segment rest ih =>
      obtain ⟨head, tail⟩ := List.forall_mem_cons.mp same
      rw [List.map_cons, failure_cons, failure_cons, ih tail, head]
      cases segment <;> rfl

theorem flaw_with_presence (given : Params) (segment : Segment)
    (same : (segment.withPresence presence).form? given = segment.form? given) :
    Resolution.flaw? given (segment.withPresence presence) = Resolution.flaw? given segment := by
  cases segment with
  | literal text => rfl
  | slot placeholder =>
      simp only [Segment.withPresence, Segment.form?, Segment.effective, Segment.placeholder?, Option.bind_some] at same
      simp only [Segment.withPresence, Resolution.flaw?, same]

theorem keep_with_presence (minimize : Bool) (given : Params) (segments : List Segment) :
    Resolution.keep minimize given (segments.map (Segment.withPresence presence)) =
      (keepWithPresence presence minimize given segments).map (Segment.withPresence presence) := by
  rw [Resolution.keep, ← List.map_reverse, List.dropWhile_map, ← List.map_reverse]
  rfl

theorem parts_with_presence (segment : Segment) (value : Option String) :
    Resolution.parts (segment.withPresence presence) value = Resolution.parts segment value := by
  cases segment <;> rfl

end Presence

section Redeclaring

variable (declaration other : Declaration) (explicit explicit' : Bool)

theorem objection_retold (template : String) (taken : Template.Taken) (kind : PlaceholderKind) (name : String) :
    Template.objection? template taken kind name =
      (Template.objection? declaration.template taken kind name).map (RegistrationError.retold template) := by
  simp only [Template.objection?]
  split_ifs with empty invalid used
  · rfl
  · rfl
  · rfl
  · cases taken.glob <;> cases kind <;> rfl

variable (requirements : other.requirements = declaration.requirements)

include requirements

theorem placeholder_redeclared (kind : PlaceholderKind) (name : String) :
    Template.placeholder other explicit' kind name = (Template.placeholder declaration explicit kind name).map
      fun placeholder => { placeholder with presence := other.presence explicit' placeholder.kind placeholder.name } := by
  rw [Template.placeholder, Template.placeholder, requirements]
  cases Template.requirement (declaration.requirements.pattern? name) kind name <;> rfl

theorem refusal_retold (taken : Template.Taken) (kind : PlaceholderKind) (name : String) :
    refusal? other explicit' taken kind name =
      (refusal? declaration explicit taken kind name).map (RegistrationError.retold other.template) := by
  rw [refusal?, refusal?, objection_retold declaration other.template,
    placeholder_redeclared declaration other explicit explicit' requirements]
  cases Template.objection? declaration.template taken kind name with
  | some error => rfl
  | none =>
      -- The error of a pattern tells no template.
      rcases placeholder_outcome declaration explicit kind name with ⟨pattern, _, _, outcome⟩ | ⟨_, first, outcome, _⟩
      · rw [outcome]
        rfl
      · rw [outcome]
        rfl

theorem place_retold (taken : Template.Taken) (tokens : List Token) :
    Template.place other explicit' taken tokens =
      ((Template.place declaration explicit taken tokens).map (List.map (Segment.under other explicit'))).mapError
        (RegistrationError.retold other.template) := by
  induction tokens generalizing taken with
  | nil => rfl
  | cons token rest ih =>
      cases token with
      | literal text =>
          rw [place_literal, place_literal, ih]
          cases Template.place declaration explicit taken rest with
          | error error => rfl
          | ok segments => exact congrArg Except.ok (cons_literal_with_presence _ text segments)
      | placeholder kind name =>
          have retold := refusal_retold declaration other explicit explicit' requirements taken kind name
          cases refused : refusal? declaration explicit taken kind name with
          | some error =>
              rw [refused] at retold
              rw [place_refused _ _ _ _ _ _ _ refused, place_refused _ _ _ _ _ _ _ retold]
              rfl
          | none =>
              rw [refused] at retold
              obtain ⟨first, outcome, placed⟩ := place_slot declaration explicit taken kind name rest refused
              obtain ⟨second, again, replaced⟩ := place_slot other explicit' taken kind name rest retold
              rw [placeholder_redeclared declaration other explicit explicit' requirements, outcome] at again
              cases again
              rw [placed, replaced, ih]
              cases Template.place declaration explicit (taken.add kind name) rest <;> rfl

section Tokens

variable (tokens : other.tokens = declaration.tokens)

include tokens

theorem segments_retold :
    Template.segments other explicit' =
      ((Template.segments declaration explicit).map (List.map (Segment.under other explicit'))).mapError
        (RegistrationError.retold other.template) := by
  have placed := place_retold declaration other explicit explicit' requirements {} declaration.tokens
  rw [← tokens] at placed
  cases outcome : Template.place declaration explicit {} declaration.tokens with
  | error error =>
      rw [tokens, outcome] at placed
      rw [segments_of_unplaced declaration explicit error outcome, segments_of_unplaced other explicit' _ (tokens ▸ placed)]
      rfl
  | ok segments =>
      rw [tokens, outcome] at placed
      have stray : Template.strayRequirement? other.requirements (segments.map (Segment.under other explicit')) =
          Template.strayRequirement? declaration.requirements segments := by
        rw [Template.strayRequirement?, Segment.under, names_with_presence, requirements]
        rfl
      rw [segments_of_placed declaration explicit segments outcome, segments_of_placed other explicit' _ (tokens ▸ placed), stray]
      cases Template.strayRequirement? declaration.requirements segments <;> rfl

theorem of_declaration_retold (order : Nat) (name : Option String) :
    Route.ofDeclaration other explicit' order name =
      ((Route.ofDeclaration declaration explicit order name).map (Route.under other explicit')).mapError
        (RegistrationError.retold other.template) := by
  rw [Route.ofDeclaration, Route.ofDeclaration, segments_retold declaration other explicit explicit' requirements tokens]
  cases Template.segments declaration explicit with
  | error error => rfl
  | ok segments =>
      have filters : Route.filtersOf other.defaults (segments.map (Segment.under other explicit')) =
          Route.filtersOf other.defaults segments := by
        rw [Route.filtersOf, Segment.under, names_with_presence]
        rfl
      exact congrArg (fun filters => Except.ok (Route.mk other name order _ filters)) filters

end Tokens

end Redeclaring

-- An error tells the template that it is about.
theorem error_own (declaration : Declaration) (explicit : Bool) (error : RegistrationError)
    (refused : Template.segments declaration explicit = .error error) : error.retold declaration.template = error := by
  have again := segments_retold declaration declaration explicit explicit rfl rfl
  rw [refused] at again
  exact (Except.error.inj again).symm

section SameTemplate

variable (declaration other : Declaration) (explicit explicit' : Bool) (template : other.template = declaration.template)
  (requirements : other.requirements = declaration.requirements)

include template requirements

theorem segments_redeclared :
    Template.segments other explicit' = (Template.segments declaration explicit).map (List.map (Segment.under other explicit')) := by
  have tokens : other.tokens = declaration.tokens := congrArg Token.ofTemplate template
  rw [segments_retold declaration other explicit explicit' requirements tokens, template]
  cases outcome : Template.segments declaration explicit with
  | error error => exact congrArg Except.error (error_own declaration explicit error outcome)
  | ok segments => rfl

theorem of_declaration_redeclared (order : Nat) (name : Option String) :
    Route.ofDeclaration other explicit' order name =
      (Route.ofDeclaration declaration explicit order name).map (Route.under other explicit') := by
  have tokens : other.tokens = declaration.tokens := congrArg Token.ofTemplate template
  rw [of_declaration_retold declaration other explicit explicit' requirements tokens, template, Route.ofDeclaration]
  cases outcome : Template.segments declaration explicit with
  | error error => exact congrArg Except.error (error_own declaration explicit error outcome)
  | ok segments => rfl

end SameTemplate

-- A compiled segment has the presence that its own declaration says.
theorem segments_under (declaration : Declaration) (explicit : Bool) (segments : List Segment)
    (compiled : Template.segments declaration explicit = .ok segments) :
    ∀ segment ∈ segments, segment.under declaration explicit = segment := by
  have again := segments_redeclared declaration declaration explicit explicit rfl rfl
  rw [compiled] at again
  have fixed : segments.map (Segment.under declaration explicit) = segments.map id :=
    (Except.ok.inj again).symm.trans segments.map_id.symm
  exact List.map_inj_left.mp fixed

theorem compiled_presence (declaration : Declaration) (explicit : Bool) (order : Nat) (name : Option String) (route : Route)
    (compiled : Route.ofDeclaration declaration explicit order name = .ok route) :
    ∀ placeholder ∈ route.placeholders,
      placeholder.presence = declaration.presence explicit placeholder.kind placeholder.name := by
  intro placeholder member
  obtain ⟨segments, outcome, same⟩ := (of_declaration_ok_iff declaration explicit order name route).mp compiled
  have inside : .slot placeholder ∈ segments := by
    rw [same] at member
    exact (mem_placeholders_iff _ placeholder).mp member
  have fixed := Segment.slot.inj (segments_under declaration explicit segments outcome _ inside)
  exact (congrArg Placeholder.presence fixed).symm

theorem under_unchanged (declaration : Declaration) (explicit : Bool) (placeholder : Placeholder)
    (same : declaration.presence explicit placeholder.kind placeholder.name = placeholder.presence) :
    Segment.under declaration explicit (.slot placeholder) = .slot placeholder :=
  congrArg (fun presence => Segment.slot { placeholder with presence := presence }) same

-- A default of a segment is no filter.
theorem filters_declare (defaults : Params) (name : String) (slot : Option Value) (segments : List Segment)
    (inside : name ∈ segments.filterMap (·.name?)) :
    Route.filtersOf (defaults.declare name slot) segments = Route.filtersOf defaults segments := by
  apply NameMap.filter_place
  intro other
  simp [inside]

end PathTemplates
