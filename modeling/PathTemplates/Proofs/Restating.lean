import PathTemplates.Proofs.Entries
import PathTemplates.Proofs.Indifference
import PathTemplates.Proofs.Shortening

set_option autoImplicit false

/-!
Resolutions that give themselves. What a route keeps of parameters is enough to ask for it again: what it leaves out has its default,
and a filter that is not given does not object.
-/

namespace PathTemplates

-- The values of kept placeholders, each under the name of its placeholder.
def restatedSlots (kept : List (Segment × Option String)) : List (String × Option Value) :=
  kept.filterMap fun (segment, value) => segment.name?.bind fun name => value.map fun value => (name, some (.text value))

def Resolution.restated (resolution : Resolution) : Params := .ofList (restatedSlots resolution.kept)

def Restates (resolution : Resolution) (own : Params) : Prop :=
  ∀ name form, (own.value? name).map Value.form = some form ↔
    ∃ placeholder, (.slot placeholder, some form) ∈ resolution.kept ∧ placeholder.name = name

theorem mem_restated (kept : List (Segment × Option String)) (name : String) (slot : Option Value) :
    (name, slot) ∈ restatedSlots kept ↔
      ∃ placeholder form, (.slot placeholder, some form) ∈ kept ∧ placeholder.name = name ∧ slot = some (.text form) := by
  constructor
  · intro member
    obtain ⟨⟨segment, value⟩, inside, written⟩ := List.mem_filterMap.mp member
    obtain ⟨found, named, same⟩ := Option.bind_eq_some_iff.mp written
    obtain ⟨form, present, entry⟩ := Option.map_eq_some_iff.mp same
    cases entry
    cases segment with
    | literal text => cases named
    | slot placeholder =>
        cases named
        rw [present] at inside
        exact ⟨placeholder, form, inside, rfl, rfl⟩
  · rintro ⟨placeholder, form, inside, rfl, rfl⟩
    exact List.mem_filterMap.mpr ⟨_, inside, rfl⟩

theorem restated_names (kept : List (Segment × Option String)) :
    ((restatedSlots kept).map (·.1)).Sublist (kept.filterMap (·.1.name?)) := by
  induction kept with
  | nil => exact List.Sublist.refl []
  | cons pair rest ih =>
      obtain ⟨segment, value⟩ := pair
      cases segment with
      | literal text => exact ih
      | slot placeholder =>
          cases value with
          | none => exact ih.cons placeholder.name
          | some form => exact ih.cons_cons placeholder.name

-- Of what is kept, only a glob without a value is not restated.
theorem kept_unstated (route : Route) (given : Params) (minimize : Bool) (resolution : Resolution)
    (resolved : route.resolve given minimize = .ok resolution) (own : Params) (restates : Restates resolution own)
    (placeholder : Placeholder) (kept : .slot placeholder ∈ Resolution.keep minimize given route.segments)
    (unstated : own.form? placeholder.name = none) : (placeholder.effective given).map Value.form = none := by
  by_contra valued
  obtain ⟨form, valued⟩ := Option.ne_none_iff_exists'.mp valued
  have pair : (.slot placeholder, some form) ∈ resolution.kept := by
    rw [(resolve_ok route given minimize resolution resolved).1, ← valued]
    exact List.mem_map.mpr ⟨_, kept, rfl⟩
  have stated := (restates placeholder.name form).mpr ⟨placeholder, pair, rfl⟩
  cases stated.symm.trans unstated

section Resolved

variable (declaration : Declaration) (explicit : Bool) (order : Nat) (name : Option String) (route : Route)
  (compiled : Route.ofDeclaration declaration explicit order name = .ok route) (given : Params) (minimize : Bool)
  (resolution : Resolution) (resolved : route.resolve given minimize = .ok resolution)

include compiled

theorem filter_not_placeholder (filter : String × Option Value) (filters : filter ∈ route.filters) (placeholder : Placeholder)
    (member : placeholder ∈ route.placeholders) : placeholder.name ≠ filter.1 := by
  have distinct := known_distinct declaration explicit order name route compiled
  rw [Route.known, List.map_append, List.map_map] at distinct
  exact (List.nodup_append.mp distinct).2.2 _ (List.mem_map.mpr ⟨placeholder, member, rfl⟩) _
    (List.mem_map.mpr ⟨filter, filters, rfl⟩)

include resolved

theorem restated_restates : Restates resolution resolution.restated := by
  have keeps := (of_declaration_compiled declaration explicit order name route compiled).2
  have distinct : ((restatedSlots resolution.kept).map (·.1)).Nodup :=
    (restated_names resolution.kept).nodup (kept_distinct route given minimize resolution keeps resolved)
  intro query form
  have found (slot : Option Value) : resolution.restated.slots.get? query = some slot ↔
      ∃ placeholder form, (.slot placeholder, some form) ∈ resolution.kept ∧ placeholder.name = query ∧
        slot = some (.text form) := by
    rw [← mem_restated, NameMap.mem_iff_lookup_distinct _ distinct, ← NameMap.get_of_list _ distinct]
    rfl
  constructor
  · intro present
    obtain ⟨value, own, same⟩ := Option.map_eq_some_iff.mp present
    obtain ⟨placeholder, other, kept, named, text⟩ := (found (some value)).mp (Option.join_eq_some_iff.mp own)
    cases text
    cases same
    exact ⟨placeholder, kept, named⟩
  · intro ⟨placeholder, kept, named⟩
    have own := (found (some (.text form))).mpr ⟨placeholder, form, kept, named, rfl⟩
    rw [Params.value?, own]
    rfl

variable (own : Params) (restates : Restates resolution own)

include restates

-- A kept placeholder is given the form that it had, if any. A dropped one is not given, and had the form of its default.
theorem restated_value (placeholder : Placeholder) (member : placeholder ∈ route.placeholders) :
    (placeholder.effective own).map Value.form = (placeholder.effective given).map Value.form := by
  have keeps := (of_declaration_compiled declaration explicit order name route compiled).2
  rw [effective_form placeholder own]
  cases present : own.form? placeholder.name with
  | some form =>
      obtain ⟨other, kept, named⟩ := (restates placeholder.name form).mp present
      obtain ⟨inside, form, _⟩ := kept_pair route given minimize resolution resolved _ _ kept
      have same := placeholder_of_name route keeps other placeholder ((mem_placeholders_iff route other).mpr inside) member named
      rw [same] at form
      exact form
  | none =>
      rw [Option.none_or]
      obtain ⟨dropped, whole, dispensable⟩ := keep_split minimize given route.segments
      have inside := (mem_placeholders_iff route placeholder).mp member
      rw [whole] at inside
      rcases List.mem_append.mp inside with kept | left
      · have missing := kept_unstated route given minimize resolution resolved own restates placeholder kept present
        have neither := effective_form placeholder given
        rw [missing, eq_comm, Option.or_eq_none_iff] at neither
        rw [missing, neither.2]
      · exact (dispensable_default minimize given placeholder (dispensable _ left)).symm

-- No filter is restated, and none that was given objected.
theorem restated_filter (filter : String × Option Value) (member : filter ∈ route.filters) :
    GivesOther own filter.1 filter.2 ↔ GivesOther given filter.1 filter.2 := by
  have matched := ((resolve_ok_iff route given minimize resolution).mp resolved).1.matched
  apply iff_of_false
  · rintro ⟨value, present, _⟩
    obtain ⟨placeholder, kept, named⟩ := (restates filter.1 value.form).mp (by rw [present, Option.map_some])
    have inside := (kept_pair route given minimize resolution resolved _ _ kept).1
    exact filter_not_placeholder declaration explicit order name route compiled filter member placeholder
      ((mem_placeholders_iff route placeholder).mpr inside) named
  · rintro ⟨value, present, other⟩
    exact (mismatch_none_iff route.filters given).mp matched filter.1 ⟨filter.2, value, member, present, other⟩

theorem restated_agrees : Agree route own given where
  values := fun placeholder member =>
    restated_value declaration explicit order name route compiled given minimize resolution resolved own restates placeholder member
  filters := fun filter member =>
    restated_filter declaration explicit order name route compiled given minimize resolution resolved own restates filter member

end Resolved

theorem kept_values_suffice (declaration : Declaration) (explicit : Bool) (order : Nat) (name : Option String) (route : Route)
    (compiled : Route.ofDeclaration declaration explicit order name = .ok route) (given : Params) (options : PathOptions)
    (resolution : Resolution) (resolved : route.resolve given options.minimize = .ok resolution) :
    Restates resolution resolution.restated ∧
      ∀ own, Restates resolution own → route.resolve own options.minimize = .ok resolution ∧
        route.path own options = .ok (resolution.path options.appendSlash) ∧ route.path own options = route.path given options := by
  refine ⟨restated_restates declaration explicit order name route compiled given _ resolution resolved, ?_⟩
  intro own restates
  have agrees := restated_agrees declaration explicit order name route compiled given _ resolution resolved own restates
  obtain ⟨resolution_same, path_same⟩ := agree_alike route own given agrees options
  have again : route.resolve own options.minimize = .ok resolution := resolution_same.trans resolved
  refine ⟨again, ?_, path_same⟩
  rw [Route.path, again]
  rfl

-- Given are a filter and a name that the route does not know; the part is left out.
def gazette : Declaration where
  template := "g/:year/:issue/*part"
  defaults := .ofList [("issue", some (.int 1)), ("lang", some (.text "en"))]

def secondIssue : Params :=
  .ofList [("year", some (.int 2004)), ("issue", some (.int 2)), ("lang", some (.text "en")), ("food", some (.text "pasta"))]

theorem kept_values_suffice_for_second_issue :
    ∃ route resolution, Route.ofDeclaration gazette false 0 none = .ok route ∧ route.resolve secondIssue true = .ok resolution ∧
      resolution.restated = .ofList [("year", some (.text "2004")), ("issue", some (.text "2"))] ∧
      Restates resolution resolution.restated ∧ route.resolve resolution.restated true = .ok resolution ∧
      route.path resolution.restated ⟨true, true⟩ = .ok "/g/2004/2/" :=
  have enough := kept_values_suffice gazette false 0 none _ rfl secondIssue ⟨true, true⟩ _ rfl
  ⟨_, _, rfl, rfl, rfl, enough.1, (enough.2 _ enough.1).1, (enough.2 _ enough.1).2.1⟩

end PathTemplates
