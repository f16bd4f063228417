import PathTemplates.Proofs.Redeclaring
import PathTemplates.Proofs.Shortening

set_option autoImplicit false

/-!
A default for a placeholder that had none. Parameters that a route accepts give the value of such a placeholder, so that the
default is not asked for; but if it is what is given, a minimized path may leave out the placeholder, and others before it.
-/

namespace PathTemplates

-- A change of the presence of segments by which more of them may be left out, while the values in force stay.
structure Loosens (presence : Placeholder → Presence) (segments : List Segment) (given : Params) (minimize : Bool) : Prop where
  forms : ∀ segment ∈ segments, (segment.withPresence presence).form? given = segment.form? given
  droppable : ∀ segment ∈ segments, segment.droppable minimize given = true →
    (segment.withPresence presence).droppable minimize given = true

section Loosens

variable (presence : Placeholder → Presence) (route wider : Route) (given : Params) (minimize : Bool)
  (loosens : Loosens presence route.segments given minimize)
  (segments : wider.segments = route.segments.map (Segment.withPresence presence))

include loosens

theorem loosens_leading :
    keepWithPresence presence minimize given route.segments <+: Resolution.keep minimize given route.segments :=
  trimmed_prefix _ _ route.segments loosens.droppable

include segments

theorem loosens_accepts (filters : wider.filters = route.filters) (accepts : Accepts route given minimize) :
    Accepts wider given minimize where
  matched := by
    rw [filters]
    exact accepts.matched
  admitted := by
    rw [segments, failure_with_presence presence given route.segments loosens.forms]
    exact accepts.admitted
  sound := by
    intro segment member
    rw [segments, keep_with_presence] at member
    obtain ⟨own, inside, same⟩ := List.mem_map.mp member
    have stays := (loosens_leading presence route given minimize loosens).subset inside
    have within := keep_subset minimize given route.segments own stays
    rw [← same, flaw_with_presence presence given own (loosens.forms own within)]
    exact accepts.sound own stays

theorem loosens_path (appendSlash : Bool) :
    (wider.keeping given minimize).path appendSlash =
      writtenPath ((keepWithPresence presence minimize given route.segments).flatMap fun segment =>
        Resolution.parts segment (segment.form? given)) appendSlash := by
  rw [keeping_path, segments, keep_with_presence, List.flatMap_map]
  apply congrArg fun parts => writtenPath parts appendSlash
  apply List.flatMap_congr
  intro segment member
  have stays := (loosens_leading presence route given minimize loosens).subset member
  rw [parts_with_presence, loosens.forms segment (keep_subset minimize given route.segments segment stays)]

theorem loosens_path_prefix (appendSlash : Bool) :
    ((wider.keeping given minimize).path appendSlash).toList <+: ((route.keeping given minimize).path appendSlash).toList := by
  rw [loosens_path presence route wider given minimize loosens segments, keeping_path]
  apply written_path_prefix
  exact (loosens_leading presence route given minimize loosens).flatMap _

end Loosens

theorem required_default (placeholder : Placeholder) (required : placeholder.optional = false) : placeholder.default = none := by
  rw [Placeholder.optional] at required
  rw [Placeholder.default]
  cases presence : placeholder.presence with
  | required => rfl
  | optional default => simp [presence] at required

theorem declaring_compiles (declaration : Declaration) (explicit : Bool) (order : Nat) (name : Option String) (route : Route)
    (compiled : Route.ofDeclaration declaration explicit order name = .ok route) (query : String) (slot : Option Value) :
    Route.ofDeclaration (declaration.declaring query slot) explicit order name =
      .ok (route.under (declaration.declaring query slot) explicit) := by
  rw [of_declaration_redeclared declaration (declaration.declaring query slot) explicit explicit rfl rfl, compiled]
  rfl

section Required

variable (declaration : Declaration) (explicit : Bool) (order : Nat) (name : Option String) (route : Route)
  (compiled : Route.ofDeclaration declaration explicit order name = .ok route) (placeholder : Placeholder)
  (member : placeholder ∈ route.placeholders)

include compiled member

theorem declaring_filters (slot : Option Value) :
    (route.under (declaration.declaring placeholder.name slot) explicit).filters = route.filters := by
  obtain ⟨segments, _, same⟩ := (of_declaration_ok_iff declaration explicit order name route).mp compiled
  have inside : placeholder.name ∈ route.segments.filterMap (·.name?) := by
    rw [← placeholder_names]
    exact List.mem_map_of_mem member
  have kept := filters_declare declaration.defaults placeholder.name slot route.segments inside
  refine kept.trans ?_
  rw [same]

-- Only the presence of the placeholder itself changes.
theorem under_declaring (slot : Option Value) (segment : Segment) (inside : segment ∈ route.segments) :
    segment = .slot placeholder ∨
      segment.under (declaration.declaring placeholder.name slot) explicit = segment := by
  cases segment with
  | literal text => exact .inr rfl
  | slot other =>
      have own := (mem_placeholders_iff route other).mpr inside
      by_cases same : other.name = placeholder.name
      · have keeps := (of_declaration_compiled declaration explicit order name route compiled).2
        exact .inl (congrArg Segment.slot (placeholder_of_name route keeps other placeholder own member same))
      · have presence := compiled_presence declaration explicit order name route compiled other own
        have kept : (declaration.declaring placeholder.name slot).presence explicit other.kind other.name = other.presence := by
          rw [presence, Declaration.presence, Declaration.presence, Declaration.declaring, Params.declares_declare,
            Params.value_declare, if_neg same, if_neg same]
        exact .inr (under_unchanged _ explicit other kept)

variable (required : placeholder.optional = false)

include required

theorem required_undeclared : declaration.defaults.declares placeholder.name = false ∧ placeholder.kind = .dynamic := by
  have presence := compiled_presence declaration explicit order name route compiled placeholder member
  rw [Placeholder.optional, presence, Declaration.presence] at required
  by_cases declared : declaration.defaults.declares placeholder.name = true
  · simp [declared] at required
  · refine ⟨Bool.eq_false_iff.mpr declared, ?_⟩
    cases kind : placeholder.kind with
    | dynamic => rfl
    | glob => simp [declared, kind, Template.impliedPresence] at required

-- A required placeholder is kept, and what is kept has a value.
theorem required_given (given : Params) (minimize : Bool) (accepts : Accepts route given minimize) :
    ∃ value, given.value? placeholder.name = some value := by
  obtain ⟨dropped, whole, dispensable⟩ := keep_split minimize given route.segments
  have inside := (mem_placeholders_iff route placeholder).mp member
  rw [whole] at inside
  have kept : .slot placeholder ∈ Resolution.keep minimize given route.segments := by
    apply (List.mem_append.mp inside).resolve_right
    intro left
    obtain ⟨found, same, optional, _⟩ := dispensable _ left
    cases same
    simp [required] at optional
  have dynamic := (required_undeclared declaration explicit order name route compiled placeholder member required).2
  obtain ⟨form, found, _⟩ := sound_dynamic given placeholder dynamic (accepts.sound _ kept)
  simp only [Segment.form?, Segment.effective, Segment.placeholder?, Option.bind_some, Placeholder.effective,
    required_default placeholder required, Option.or_none, Option.map_eq_some_iff] at found
  obtain ⟨value, present, _⟩ := found
  exact ⟨value, present⟩

theorem declaring_loosens (slot : Option Value) (given : Params) (minimize : Bool) (accepts : Accepts route given minimize) :
    Loosens (fun other => (declaration.declaring placeholder.name slot).presence explicit other.kind other.name)
      route.segments given minimize := by
  have changes := under_declaring declaration explicit order name route compiled placeholder member slot
  constructor
  · intro segment inside
    rcases changes segment inside with here | same
    · obtain ⟨value, present⟩ :=
        required_given declaration explicit order name route compiled placeholder member required given minimize accepts
      simp [here, Segment.withPresence, Segment.form?, Segment.effective, Segment.placeholder?, Placeholder.effective, present]
    · exact congrArg (Segment.form? · given) same
  · intro segment inside droppable
    rcases changes segment inside with here | same
    · simp [here, Segment.droppable, Segment.placeholder?, Placeholder.droppable, required] at droppable
    · exact (congrArg (Segment.droppable · minimize given) same).trans droppable

-- A value that is given is not left out without minimizing.
theorem declaring_keeps (slot : Option Value) (given : Params) (accepts : Accepts route given false) :
    keepWithPresence (fun other => (declaration.declaring placeholder.name slot).presence explicit other.kind other.name)
      false given route.segments = Resolution.keep false given route.segments := by
  apply congrArg List.reverse
  apply drop_while_congr
  intro segment inside
  rcases under_declaring declaration explicit order name route compiled placeholder member slot segment
    (List.mem_reverse.mp inside) with here | same
  · obtain ⟨value, present⟩ :=
      required_given declaration explicit order name route compiled placeholder member required given false accepts
    simp [here, Segment.withPresence, Segment.droppable, Segment.placeholder?, Placeholder.droppable, Placeholder.effective,
      present]
  · exact congrArg (Segment.droppable · false given) same

end Required

theorem declared_default_widens (declaration : Declaration) (explicit : Bool) (order : Nat) (name : Option String)
    (route : Route) (compiled : Route.ofDeclaration declaration explicit order name = .ok route) (placeholder : Placeholder)
    (member : placeholder ∈ route.placeholders) (required : placeholder.optional = false) (slot : Option Value) :
    declaration.defaults.declares placeholder.name = false ∧
      ∃ wider, Route.ofDeclaration (declaration.declaring placeholder.name slot) explicit order name = .ok wider ∧
        ∀ given options path, route.path given options = .ok path →
          ∃ shorter, wider.path given options = .ok shorter ∧ shorter.toList <+: path.toList ∧
            (options.minimize = false → shorter = path) := by
  have undeclared := (required_undeclared declaration explicit order name route compiled placeholder member required).1
  have again := declaring_compiles declaration explicit order name route compiled placeholder.name slot
  have filters := declaring_filters declaration explicit order name route compiled placeholder member slot
  refine ⟨undeclared, _, again, ?_⟩
  intro given options path generated
  obtain ⟨accepts, written⟩ := (path_ok_iff route given options path).mp generated
  have loosens := declaring_loosens declaration explicit order name route compiled placeholder member required slot given
    options.minimize accepts
  refine ⟨_, (path_ok_iff _ given options _).mpr ⟨?_, rfl⟩, ?_, ?_⟩
  · exact loosens_accepts _ route _ given options.minimize loosens rfl filters accepts
  · rw [written]
    exact loosens_path_prefix _ route _ given options.minimize loosens rfl options.appendSlash
  · intro full
    rw [full] at accepts loosens written ⊢
    rw [written, loosens_path _ route _ given false loosens rfl, keeping_path,
      declaring_keeps declaration explicit order name route compiled placeholder member required slot given accepts]

-- A year has to be given. With the default 2004 for it the path of 2004 leaves out the language as well.
def chronicle : Declaration where
  template := "c/:lang/:year/:month"
  defaults := .ofList [("lang", some (.text "en")), ("month", some (.int 1))]

def yearOnly : Params := .ofList [("year", some (.int 2004))]

theorem declared_default_widens_chronicle :
    ∃ route, Route.ofDeclaration chronicle false 0 none = .ok route ∧
      route.path yearOnly ⟨true, false⟩ = .ok "/c/en/2004" ∧ route.path yearOnly ⟨false, false⟩ = .ok "/c/en/2004/1" ∧
      (∃ wider, Route.ofDeclaration (chronicle.declaring "year" (some (.text "2004"))) false 0 none = .ok wider ∧
        wider.path yearOnly ⟨true, false⟩ = .ok "/c") ∧
      ∃ wider, Route.ofDeclaration (chronicle.declaring "year" (some (.text ""))) false 0 none = .ok wider ∧
        ∀ given options path, route.path given options = .ok path →
          ∃ shorter, wider.path given options = .ok shorter ∧ shorter.toList <+: path.toList ∧
            (options.minimize = false → shorter = path) :=
  ⟨_, rfl, rfl, rfl, ⟨_, rfl, rfl⟩,
    (declared_default_widens chronicle false 0 none _ rfl ⟨.dynamic, "year", .oneComponent, .required⟩ (by decide) rfl
      (some (.text ""))).2⟩

end PathTemplates
