import Mathlib.Data.Prod.Lex
import Mathlib.Data.String.Basic
import PathTemplates.Proofs.Entries
import PathTemplates.Proofs.Indifference

set_option autoImplicit false

/-!
Maps whose entries are gone through in any order. Wherever that is done, for the filters of a route, for requirements on names that
no segment has and for the key of parameters, what is found is sorted. So the order never shows.
-/

namespace PathTemplates

structure Reordered {α : Type} (entries others : List (String × α)) : Prop where
  distinct : (entries.map (·.1)).Nodup
  permuted : entries.Perm others

/-- A declaration with the entries of its maps in the order that they are gone through. -/
structure Listing where
  template : String
  defaults : List (String × Option Value)
  requirements : List (String × String)

namespace Listing

-- The maps themselves, to look names up in.
def declaration (listing : Listing) : Declaration :=
  ⟨listing.template, .ofList listing.defaults, .ofList listing.requirements⟩

-- The names that a pattern is required of and that no segment has, in order, and the first of them.
def stray? (listing : Listing) (segments : List Segment) : Option String :=
  let unknown := (listing.requirements.map (·.1)).filter fun name => !(segments.filterMap (·.name?)).contains name
  (unknown.mergeSort fun a b => decide (a ≤ b)).head?

def filters (listing : Listing) (segments : List Segment) : List (String × Option Value) :=
  let others := listing.defaults.filter fun entry => !(segments.filterMap (·.name?)).contains entry.1
  others.mergeSort fun a b => decide (a.1 ≤ b.1)

def segments (listing : Listing) (explicit : Bool) : Except RegistrationError (List Segment) := do
  let segments ← Template.place listing.declaration explicit {} (Token.ofTemplate listing.template)
  match listing.stray? segments with
  | some name => throw (.unknownRequirement listing.template name)
  | none => return segments

def route (listing : Listing) (explicit : Bool) (order : Nat) (name : Option String := none) :
    Except RegistrationError Route := do
  let segments ← listing.segments explicit
  return ⟨listing.declaration, name, order, segments, listing.filters segments⟩

-- The key of parameters whose entries are listed. Names are compared first and forms behind them.
def key (slots : List (String × Option Value)) : List (String × String) :=
  (Params.keyOf slots).mergeSort fun a b => decide (toLex a ≤ toLex b)

end Listing

section Reordered

variable {α : Type} (entries others : List (String × α)) (reordered : Reordered entries others)

include reordered

theorem reordered_distinct : (others.map (·.1)).Nodup := (reordered.permuted.map _).nodup_iff.mp reordered.distinct

theorem reordered_lookup (name : String) : entries.lookup name = others.lookup name := by
  apply Option.ext
  intro value
  rw [← NameMap.mem_iff_lookup_distinct entries reordered.distinct, reordered.permuted.mem_iff,
    NameMap.mem_iff_lookup_distinct others (reordered_distinct entries others reordered)]

theorem reordered_map : NameMap.ofList entries = NameMap.ofList others := by
  apply NameMap.get_ext
  intro name
  rw [NameMap.get_of_list entries reordered.distinct, reordered_lookup entries others reordered,
    NameMap.get_of_list others (reordered_distinct entries others reordered)]

end Reordered

section Listed

variable (listing : Listing)

theorem listed_stray (distinct : (listing.requirements.map (·.1)).Nodup) (segments : List Segment) :
    listing.stray? segments = Template.strayRequirement? listing.declaration.requirements segments := by
  have permuted : (listing.requirements.map (·.1)).Perm (listing.declaration.requirements.toList.map (·.1)) :=
    (NameMap.of_list_permuted listing.requirements distinct).symm.map _
  have ascending : (listing.declaration.requirements.toList.map (·.1)).Pairwise (· < ·) :=
    List.pairwise_map.mpr listing.declaration.requirements.patterns.ascending
  rw [Listing.stray?, Template.strayRequirement?, sort_named _ _ (permuted.filter _) (fun name => name) (ascending.filter _),
    List.head?_filter]

theorem listed_filters (distinct : (listing.defaults.map (·.1)).Nodup) (segments : List Segment) :
    listing.filters segments = Route.filtersOf listing.declaration.defaults segments := by
  have permuted : listing.defaults.Perm listing.declaration.defaults.toList :=
    (NameMap.of_list_permuted listing.defaults distinct).symm
  have ascending : listing.declaration.defaults.toList.Pairwise fun a b => a.1 < b.1 :=
    listing.declaration.defaults.slots.ascending
  exact sort_named _ _ (permuted.filter _) (·.1) (ascending.filter _)

theorem listed_segments (distinct : (listing.requirements.map (·.1)).Nodup) (explicit : Bool) :
    listing.segments explicit = Template.segments listing.declaration explicit := by
  rw [Listing.segments, Template.segments]
  simp only [listed_stray listing distinct]
  rfl

theorem listed_route (defaults : (listing.defaults.map (·.1)).Nodup) (requirements : (listing.requirements.map (·.1)).Nodup)
    (explicit : Bool) (order : Nat) (name : Option String) :
    listing.route explicit order name = Route.ofDeclaration listing.declaration explicit order name := by
  rw [Listing.route, Route.ofDeclaration, listed_segments listing requirements]
  simp only [listed_filters listing defaults]

end Listed

theorem listed_key (slots : List (String × Option Value)) (distinct : (slots.map (·.1)).Nodup) :
    Listing.key slots = (Params.ofList slots).key := by
  have permuted : (Params.keyOf slots).Perm (Params.ofList slots).key :=
    (NameMap.of_list_permuted slots distinct).symm.filterMap _
  apply sort_permuted _ _ permuted
  · intro a b c first second
    exact decide_eq_true (le_trans (of_decide_eq_true first) (of_decide_eq_true second))
  · intro a b
    simpa using le_total (toLex a) (toLex b)
  · exact (Params.ofList slots).key_ascending.imp fun less => decide_eq_true (Prod.Lex.toLex_le_toLex.mpr (.inl less))
  · intro a _ b _ less more
    exact toLex_inj.mp (le_antisymm (of_decide_eq_true less) (of_decide_eq_true more))

-- Parameters that give names the values that listed entries give them.
def Params.Reads (params : Params) (slots : List (String × Option Value)) : Prop :=
  ∀ name, params.value? name = (slots.lookup name).join

structure Relisted (listing other : Listing) : Prop where
  template : listing.template = other.template
  defaults : Reordered listing.defaults other.defaults
  requirements : Reordered listing.requirements other.requirements

theorem relisted_declaration (listing other : Listing) (relisted : Relisted listing other) :
    listing.declaration = other.declaration := by
  have defaults := reordered_map _ _ relisted.defaults
  have requirements := reordered_map _ _ relisted.requirements
  rw [Listing.declaration, Listing.declaration, relisted.template, Params.ofList, Params.ofList, defaults,
    Requirements.ofList, Requirements.ofList, requirements]

theorem order_never_shows (listing other : Listing) (relisted : Relisted listing other) (slots others : List (String × Option Value))
    (reordered : Reordered slots others) (explicit : Bool) (order : Nat) (name : Option String) :
    listing.route explicit order name = other.route explicit order name ∧
      listing.route explicit order name = Route.ofDeclaration listing.declaration explicit order name ∧
      (∀ route, listing.route explicit order name = .ok route →
        route.filters.Pairwise (fun a b => a.1 < b.1) ∧
        ∀ p q : Params, p.Reads slots → q.Reads others → Alike route p q) ∧
      Listing.key slots = Listing.key others ∧ Listing.key slots = (Params.ofList slots).key ∧
      (Params.ofList slots).Reads slots ∧ (Params.ofList others).Reads others ∧
      ∀ query, listing.declaration.defaults.slots.get? query = listing.defaults.lookup query ∧
        listing.declaration.requirements.pattern? query = listing.requirements.lookup query := by
  have compiled := listed_route listing relisted.defaults.distinct relisted.requirements.distinct explicit order name
  have again := listed_route other (reordered_distinct _ _ relisted.defaults) (reordered_distinct _ _ relisted.requirements)
    explicit order name
  have distinct := reordered_distinct slots others reordered
  have key := listed_key slots reordered.distinct
  have read (entries : List (String × Option Value)) (own : (entries.map (·.1)).Nodup) : (Params.ofList entries).Reads entries :=
    fun query => congrArg Option.join (NameMap.get_of_list entries own query)
  refine ⟨?_, compiled, ?_, ?_, key, read slots reordered.distinct, read others distinct, ?_⟩
  · rw [compiled, again, relisted_declaration listing other relisted]
  · intro route accepted
    rw [compiled] at accepted
    refine ⟨filters_ascending _ explicit order name route accepted, ?_⟩
    intro p q first second
    apply agree_alike
    apply agree_of_known
    intro entry _
    rw [Params.form?, Params.form?, first, second, reordered_lookup slots others reordered]
  · rw [key, listed_key others distinct, Params.ofList, Params.ofList, reordered_map slots others reordered]
  · intro query
    exact ⟨NameMap.get_of_list _ relisted.defaults.distinct query, NameMap.get_of_list _ relisted.requirements.distinct query⟩

def Listing.reversed (listing : Listing) : Listing :=
  ⟨listing.template, listing.defaults.reverse, listing.requirements.reverse⟩

theorem reversed_relisted (listing : Listing) (defaults : (listing.defaults.map (·.1)).Nodup)
    (requirements : (listing.requirements.map (·.1)).Nodup) : Relisted listing listing.reversed where
  template := rfl
  defaults := ⟨defaults, (List.reverse_perm _).symm⟩
  requirements := ⟨requirements, (List.reverse_perm _).symm⟩

-- Two filters, and two requirements on no segment.
def districts : Listing := ⟨"g/:city/:page", [("zone", none), ("page", some (.int 1)), ("lang", some (.text "en"))], []⟩

def strayDistricts : Listing := ⟨"g/:city", [], [("zip", "x+"), ("city", "[a-z]+"), ("area", "y+")]⟩

def visitor : List (String × Option Value) := [("zone", some (.int 2)), ("city", some (.text "Rom")), ("lang", some (.text "fr"))]

theorem order_never_shows_in_districts :
    ∃ route, districts.route false 0 none = .ok route ∧ districts.reversed.route false 0 none = .ok route ∧
      Alike route (.ofList visitor) (.ofList visitor.reverse) ∧
      route.path (.ofList visitor.reverse) ⟨true, false⟩ = .error (.filterMismatch "lang") ∧
      strayDistricts.reversed.route false 0 none = .error (.unknownRequirement "g/:city" "area") ∧
      Listing.key visitor = Listing.key visitor.reverse ∧ Listing.key visitor = [("city", "Rom"), ("lang", "fr"), ("zone", "2")] := by
  have given : Reordered visitor visitor.reverse := ⟨by decide, (List.reverse_perm visitor).symm⟩
  have relisted := reversed_relisted districts (by decide) (by decide)
  have stray := reversed_relisted strayDistricts (by decide) (by decide)
  obtain ⟨same, compiled, accepted, key, sorted, first, second, _⟩ :=
    order_never_shows districts districts.reversed relisted visitor visitor.reverse given false 0 none
  obtain ⟨alike, refused, _⟩ :=
    order_never_shows strayDistricts strayDistricts.reversed stray visitor visitor.reverse given false 0 none
  have route := compiled.trans rfl
  exact ⟨_, route, same.symm.trans route, (accepted _ route).2 _ _ first second, rfl, alike.symm.trans (refused.trans rfl), key,
    sorted.trans rfl⟩

end PathTemplates
