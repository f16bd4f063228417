import PathTemplates.Proofs.Outcome

set_option autoImplicit false

/-!
What a route is indifferent to. It looks at the value in force for each of its placeholders, and at each of its filters for a
value other than the default. So a name that it does not know does nothing, and a default that is given does what leaving it out
does.
-/

namespace PathTemplates

-- Whether parameters give a name a value other than a default. Without a default every value is another one.
def GivesOther (given : Params) (name : String) (default : Option Value) : Prop :=
  ∃ value, given.value? name = some value ∧ some value.form ≠ default.map Value.form

-- Parameters under which each placeholder of a route has one value in force, and that give the same filters other values.
structure Agree (route : Route) (p q : Params) : Prop where
  values : ∀ placeholder ∈ route.placeholders,
    (placeholder.effective p).map Value.form = (placeholder.effective q).map Value.form
  filters : ∀ filter ∈ route.filters, GivesOther p filter.1 filter.2 ↔ GivesOther q filter.1 filter.2

-- Parameters that a route answers alike, be it with a rejection or with what it keeps and the path of it.
def Alike (route : Route) (p q : Params) : Prop :=
  ∀ options : PathOptions,
    route.resolve p options.minimize = route.resolve q options.minimize ∧ route.path p options = route.path q options

-- The names that a route knows, each with its default: those of its placeholders and those of its filters.
def Route.known (route : Route) : List (String × Option Value) :=
  route.placeholders.map (fun placeholder => (placeholder.name, placeholder.default)) ++ route.filters

instance (given : Params) (name : String) (default : Option Value) : Decidable (GivesOther given name default) :=
  decidable_of_iff _ (differs_iff given name default)

theorem gives_other_iff (given : Params) (name : String) (default : Option Value) :
    GivesOther given name default ↔ given.differs name default = true :=
  (differs_iff given name default).symm

theorem form_declare (given : Params) (name : String) (slot : Option Value) (query : String) :
    (given.declare name slot).form? query = if query = name then slot.map Value.form else given.form? query := by
  rw [Params.form?, Params.value_declare]
  by_cases same : query = name <;> simp [same, Params.form?]

section Agree

variable (route : Route) (p q : Params)

theorem agree_alike (agree : Agree route p q) : Alike route p q := by
  have view : SameView route p q := by
    constructor
    · intro segment member
      cases segment with
      | literal text => rfl
      | slot placeholder => exact agree.values placeholder ((mem_placeholders_iff route placeholder).mpr member)
    · intro filter member
      apply Bool.eq_iff_iff.mpr
      rw [← gives_other_iff, ← gives_other_iff]
      exact agree.filters filter member
  intro options
  exact ⟨resolve_same_view route options.minimize p q view, path_same_view route options p q view⟩

-- Names that a route does not know may have any values.
theorem agree_of_known (same : ∀ entry ∈ route.known, p.form? entry.1 = q.form? entry.1) : Agree route p q := by
  constructor
  · intro placeholder member
    have known : (placeholder.name, placeholder.default) ∈ route.known :=
      List.mem_append_left _ (List.mem_map.mpr ⟨placeholder, member, rfl⟩)
    rw [effective_form, effective_form, same _ known]
  · intro filter member
    rw [gives_other_iff, gives_other_iff, Params.differs, Params.differs, same filter (List.mem_append_right _ member)]

end Agree

-- A filter has the name of no segment, and the segments have different names.
theorem known_distinct (declaration : Declaration) (explicit : Bool) (order : Nat) (name : Option String) (route : Route)
    (compiled : Route.ofDeclaration declaration explicit order name = .ok route) : (route.known.map (·.1)).Nodup := by
  have slots := placeholder_names route
  have placeholders : (route.placeholders.map (·.name)).Nodup := by
    rw [slots]
    exact (of_declaration_compiled declaration explicit order name route compiled).2.distinct
  have filters : (route.filters.map (·.1)).Nodup :=
    NameMap.ascending_distinct route.filters (filters_ascending declaration explicit order name route compiled)
  rw [Route.known, List.map_append, List.map_map]
  refine List.nodup_append.mpr ⟨placeholders, filters, ?_⟩
  intro slot slotMember other filterMember same
  obtain ⟨filter, member, named⟩ := List.mem_map.mp filterMember
  obtain ⟨segments, _, whole⟩ := (of_declaration_ok_iff declaration explicit order name route).mp compiled
  rw [whole] at member slots
  have outside := (List.mem_filter.mp member).2
  have inside : filter.1 ∈ segments.filterMap (·.name?) := by
    rw [named, ← same, ← slots]
    simpa [whole] using slotMember
  simp [inside] at outside

-- To give a known name its default is to leave it out.
theorem agree_given_default (route : Route) (distinct : (route.known.map (·.1)).Nodup) (given : Params) (name : String)
    (default : Option Value) (known : (name, default) ∈ route.known) (missing : given.value? name = none) (slot : Option Value)
    (same : slot.map Value.form = default.map Value.form) : Agree route (given.declare name slot) given := by
  have absent : given.form? name = none := by rw [Params.form?, missing, Option.map_none]
  have only (other : Option Value) (member : (name, other) ∈ route.known) : other = default :=
    congrArg Prod.snd (List.inj_on_of_nodup_map distinct member known rfl)
  constructor
  · intro placeholder member
    rw [effective_form, effective_form, form_declare]
    by_cases here : placeholder.name = name
    · have own : placeholder.default = default := by
        apply only
        rw [← here]
        exact List.mem_append_left _ (List.mem_map.mpr ⟨placeholder, member, rfl⟩)
      rw [if_pos here, here, absent, own, same, Option.none_or, Option.or_self]
    · rw [if_neg here]
  · intro filter member
    rw [gives_other_iff, gives_other_iff, Params.differs, Params.differs, form_declare]
    by_cases here : filter.1 = name
    · have own : filter.2 = default := only filter.2 (here ▸ List.mem_append_right _ member)
      rw [if_pos here, here, absent, own, same]
      cases default <;> simp
    · rw [if_neg here]

structure Indifferent (route : Route) : Prop where
  view : ∀ p q, Agree route p q → Alike route p q
  unknown : ∀ p q : Params,
    (∀ entry ∈ route.known, (p.value? entry.1).map Value.form = (q.value? entry.1).map Value.form) → Alike route p q
  default : ∀ (given : Params) name default slot, (name, default) ∈ route.known → given.value? name = none →
    slot.map Value.form = default.map Value.form → Alike route (given.declare name slot) given

theorem route_sees_view (declaration : Declaration) (explicit : Bool) (order : Nat) (name : Option String) (route : Route)
    (compiled : Route.ofDeclaration declaration explicit order name = .ok route) : Indifferent route where
  view := agree_alike route
  unknown := by
    intro p q same
    exact agree_alike route p q (agree_of_known route p q same)
  default := by
    intro given query default slot known missing same
    have distinct := known_distinct declaration explicit order name route compiled
    exact agree_alike route _ _ (agree_given_default route distinct given query default known missing slot same)

-- Two filters, one of them without a default.
def cityGuide : Declaration where
  template := "g/:city/:page"
  defaults := .ofList [("page", some (.int 1)), ("lang", some (.text "en")), ("zone", none)]

theorem route_sees_view_of_city_guide :
    ∃ route, Route.ofDeclaration cityGuide false 0 none = .ok route ∧
      Alike route (.ofList [("city", some (.text "Rom")), ("page", some (.text "1")), ("lang", some (.text "fr"))])
        (.ofList [("city", some (.text "Rom")), ("lang", some (.int 7)), ("food", some (.text "pasta"))]) ∧
      route.path (.ofList [("city", some (.text "Rom")), ("lang", some (.int 7)), ("food", some (.text "pasta"))]) ⟨true, false⟩ =
        .error (.filterMismatch "lang") ∧
      Alike route (.ofList [("city", some (.text "Rom")), ("food", some (.int 0))]) (.ofList [("city", some (.text "Rom"))]) ∧
      Alike route ((Params.ofList [("city", some (.text "Rom"))]).declare "lang" (some (.text "en")))
        (.ofList [("city", some (.text "Rom"))]) ∧
      route.path (.ofList [("city", some (.text "Rom"))]) ⟨true, false⟩ = .ok "/g/Rom" :=
  ⟨_, rfl, (route_sees_view cityGuide false 0 none _ rfl).view _ _ ⟨by decide, by decide⟩, rfl,
    (route_sees_view cityGuide false 0 none _ rfl).unknown _ _ (by decide),
    (route_sees_view cityGuide false 0 none _ rfl).default _ "lang" (some (.text "en")) _ (by decide) rfl rfl, rfl⟩

end PathTemplates
