import PathTemplates.Proofs.Paths
import PathTemplates.Proofs.Trimming

set_option autoImplicit false

/-!
The outcome of resolving parameters, told by the first check that they fail: the filters, the requirements of all placeholders,
and a value for every dynamic placeholder that is kept.
-/

namespace PathTemplates

-- A filter that is given a value other than its default. Without a default every value is another one.
def Mismatched (filters : List (String × Option Value)) (given : Params) (name : String) : Prop :=
  ∃ default value, (name, default) ∈ filters ∧ given.value? name = some value ∧ some value.form ≠ default.map Value.form

-- A placeholder whose value, in this form, its requirement does not admit.
def Failing (given : Params) (placeholder : Placeholder) (value : String) : Prop :=
  (placeholder.effective given).map Value.form = some value ∧ placeholder.requirement.admits value = false

-- Why a segment cannot be written if it is kept. Neither literals nor globs have a reason.
inductive Flawed (given : Params) : Segment → Rejection → Prop
  | absent (placeholder : Placeholder) : placeholder.kind = .dynamic → placeholder.effective given = none →
      Flawed given (.slot placeholder) (.missingValue placeholder.name)
  | empty (placeholder : Placeholder) : placeholder.kind = .dynamic →
      (placeholder.effective given).map Value.form = some "" → Flawed given (.slot placeholder) (.missingValue placeholder.name)
  | emptyComponent (placeholder : Placeholder) (value : String) : placeholder.kind = .dynamic →
      (placeholder.effective given).map Value.form = some value → value ≠ "" → "" ∈ Text.pieces value →
      Flawed given (.slot placeholder) (.emptyComponent placeholder.name value)

-- What comes of resolving parameters. A check is only asked for where none before it fails.
inductive Outcome (route : Route) (given : Params) (minimize : Bool) : Except Rejection Resolution → Prop
  | mismatch (name : String) : Mismatched route.filters given name →
      (∀ other, Mismatched route.filters given other → name ≤ other) →
      Outcome route given minimize (.error (.filterMismatch name))
  | failure (before : List Placeholder) (placeholder : Placeholder) (after : List Placeholder) (value : String) :
      (∀ name, ¬ Mismatched route.filters given name) →
      route.placeholders = before ++ placeholder :: after →
      (∀ earlier ∈ before, ∀ other, ¬ Failing given earlier other) → Failing given placeholder value →
      Outcome route given minimize (.error (.requirementFailed placeholder.name value))
  | flaw (count : Nat) (before : List Segment) (segment : Segment) (after : List Segment) (rejection : Rejection) :
      (∀ name, ¬ Mismatched route.filters given name) →
      (∀ placeholder ∈ route.placeholders, ∀ value, ¬ Failing given placeholder value) →
      IsLeast (keptCounts minimize given route.segments) count →
      route.segments.take count = before ++ segment :: after →
      (∀ earlier ∈ before, ∀ other, ¬ Flawed given earlier other) → Flawed given segment rejection →
      Outcome route given minimize (.error rejection)
  | kept (count : Nat) :
      (∀ name, ¬ Mismatched route.filters given name) →
      (∀ placeholder ∈ route.placeholders, ∀ value, ¬ Failing given placeholder value) →
      IsLeast (keptCounts minimize given route.segments) count →
      (∀ segment ∈ route.segments.take count, ∀ rejection, ¬ Flawed given segment rejection) →
      Outcome route given minimize
        (.ok ⟨(route.segments.take count).map fun segment => (segment, (segment.effective given).map Value.form)⟩)

-- The first element with a result, told by a relation that elements and results stand in.
theorem find_none_iff {α β : Type} (f : α → Option β) (R : α → β → Prop) (told : ∀ a b, f a = some b ↔ R a b)
    (list : List α) : list.findSome? f = none ↔ ∀ a ∈ list, ∀ b, ¬ R a b := by
  rw [List.findSome?_eq_none_iff]
  refine forall₂_congr fun a _ => ?_
  rw [Option.eq_none_iff_forall_ne_some]
  exact forall_congr' fun b => not_congr (told a b)

theorem find_some_iff {α β : Type} (f : α → Option β) (R : α → β → Prop) (told : ∀ a b, f a = some b ↔ R a b)
    (list : List α) (b : β) :
    list.findSome? f = some b ↔
      ∃ before a after, list = before ++ a :: after ∧ R a b ∧ ∀ earlier ∈ before, ∀ other, ¬ R earlier other := by
  rw [List.findSome?_eq_some_iff]
  refine exists₃_congr fun before a after => ?_
  rw [told, ← List.findSome?_eq_none_iff, find_none_iff f R told]

theorem mismatched_cons (name : String) (default : Option Value) (rest : List (String × Option Value)) (given : Params)
    (other : String) :
    Mismatched ((name, default) :: rest) given other ↔
      (other = name ∧ given.differs name default = true) ∨ Mismatched rest given other := by
  rw [differs_iff]
  constructor
  · rintro ⟨found, value, member, present, different⟩
    rcases List.mem_cons.mp member with same | later
    · cases same
      exact .inl ⟨rfl, value, present, different⟩
    · exact .inr ⟨found, value, later, present, different⟩
  · intro either
    rcases either with ⟨same, value, present, different⟩ | ⟨found, value, later, present, different⟩
    · rw [same]
      exact ⟨default, value, List.mem_cons_self, present, different⟩
    · exact ⟨found, value, List.mem_cons_of_mem _ later, present, different⟩

theorem mismatch_none_iff (filters : List (String × Option Value)) (given : Params) :
    Resolution.mismatch? filters given = none ↔ ∀ name, ¬ Mismatched filters given name := by
  induction filters with
  | nil => simp [Resolution.mismatch?, Mismatched]
  | cons filter rest ih =>
      obtain ⟨name, default⟩ := filter
      rw [mismatch_cons]
      cases differs : given.differs name default with
      | false => simpa [mismatched_cons, differs] using ih
      | true => simpa using ⟨name, (mismatched_cons name default rest given name).mpr (.inl ⟨rfl, differs⟩)⟩

-- The first filter that mismatches has the least name, as filters ascend by their names.
theorem mismatch_some_iff (filters : List (String × Option Value)) (given : Params)
    (ascending : filters.Pairwise fun a b => a.1 < b.1) (rejection : Rejection) :
    Resolution.mismatch? filters given = some rejection ↔
      ∃ name, rejection = .filterMismatch name ∧ Mismatched filters given name ∧
        ∀ other, Mismatched filters given other → name ≤ other := by
  induction filters with
  | nil => simp [Resolution.mismatch?, Mismatched]
  | cons filter rest ih =>
      obtain ⟨name, default⟩ := filter
      obtain ⟨above, tail⟩ := List.pairwise_cons.mp ascending
      simp only [mismatch_cons, mismatched_cons]
      cases given.differs name default with
      | false => simpa using ih tail
      | true =>
          have least (other : String) (later : Mismatched rest given other) : name < other := by
            obtain ⟨found, _, member, _⟩ := later
            exact above (other, found) member
          rw [if_pos rfl, Option.some.injEq]
          constructor
          · intro same
            refine ⟨name, same.symm, .inl ⟨rfl, rfl⟩, ?_⟩
            intro other either
            rcases either with ⟨equal, _⟩ | later
            · exact Std.le_of_eq equal.symm
            · exact Std.le_of_lt (least other later)
          · rintro ⟨found, same, either, first⟩
            rcases either with ⟨equal, _⟩ | later
            · rw [same, equal]
            · exact absurd (least found later) (Std.not_lt.mpr (first name (.inl ⟨rfl, rfl⟩)))

theorem failure_eq (segments : List Segment) (given : Params) :
    Resolution.failure? segments given = (segments.filterMap (·.placeholder?)).findSome? fun placeholder =>
      placeholder.failure? ((placeholder.effective given).map Value.form) := by
  induction segments with
  | nil => rfl
  | cons segment rest ih =>
      rw [failure_cons, ih]
      cases segment with
      | literal text => rfl
      | slot placeholder =>
          simp only [Segment.placeholder?, Option.bind_some, List.filterMap_cons, List.findSome?_cons, Segment.form?,
            Segment.effective]
          cases placeholder.failure? ((placeholder.effective given).map Value.form) <;> rfl

theorem placeholder_failure_iff (given : Params) (placeholder : Placeholder) (rejection : Rejection) :
    placeholder.failure? ((placeholder.effective given).map Value.form) = some rejection ↔
      ∃ value, rejection = .requirementFailed placeholder.name value ∧ Failing given placeholder value := by
  unfold Failing Placeholder.failure?
  cases (placeholder.effective given).map Value.form with
  | none => simp
  | some value =>
      simp only [Option.bind_some, Option.ite_none_left_eq_some, Option.some.injEq, Bool.not_eq_true]
      constructor
      · intro ⟨refused, same⟩
        exact ⟨value, same.symm, rfl, refused⟩
      · intro ⟨other, same, equal, refused⟩
        rw [equal]
        exact ⟨refused, same.symm⟩

theorem no_failure_iff (given : Params) (placeholder : Placeholder) :
    (∀ rejection, ¬ ∃ value, rejection = Rejection.requirementFailed placeholder.name value ∧ Failing given placeholder value) ↔
      ∀ value, ¬ Failing given placeholder value := by
  simp only [not_exists, not_and]
  exact ⟨fun quiet value => quiet _ value rfl, fun quiet _ value _ => quiet value⟩

theorem failure_none_iff (route : Route) (given : Params) :
    Resolution.failure? route.segments given = none ↔
      ∀ placeholder ∈ route.placeholders, ∀ value, ¬ Failing given placeholder value := by
  rw [failure_eq, find_none_iff _ _ (placeholder_failure_iff given)]
  simp only [no_failure_iff]
  rfl

theorem failure_some_iff (route : Route) (given : Params) (rejection : Rejection) :
    Resolution.failure? route.segments given = some rejection ↔
      ∃ before placeholder after value, rejection = .requirementFailed placeholder.name value ∧
        route.placeholders = before ++ placeholder :: after ∧
        (∀ earlier ∈ before, ∀ other, ¬ Failing given earlier other) ∧ Failing given placeholder value := by
  rw [failure_eq, find_some_iff _ _ (placeholder_failure_iff given)]
  simp only [no_failure_iff]
  constructor
  · intro ⟨before, placeholder, after, split, ⟨value, same, failing⟩, quiet⟩
    exact ⟨before, placeholder, after, value, same, split, quiet, failing⟩
  · intro ⟨before, placeholder, after, value, same, split, quiet, failing⟩
    exact ⟨before, placeholder, after, split, ⟨value, same, failing⟩, quiet⟩

theorem flaw_some_iff (given : Params) (segment : Segment) (rejection : Rejection) :
    Resolution.flaw? given segment = some rejection ↔ Flawed given segment rejection := by
  constructor
  · intro found
    cases segment with
    | literal text => cases found
    | slot placeholder =>
        cases kind : placeholder.kind with
        | glob => simp [Resolution.flaw?, kind] at found
        | dynamic =>
            cases form : (placeholder.effective given).map Value.form with
            | none =>
                simp only [Resolution.flaw?, kind, form, Option.some.injEq] at found
                rw [← found]
                exact .absent placeholder kind (Option.map_eq_none_iff.mp form)
            | some value =>
                by_cases empty : value = ""
                · simp only [Resolution.flaw?, kind, form, if_pos empty, Option.some.injEq] at found
                  rw [← found]
                  exact .empty placeholder kind (empty ▸ form)
                · simp only [Resolution.flaw?, kind, form, if_neg empty, Option.ite_none_right_eq_some, Option.some.injEq,
                    List.any_eq_true, decide_eq_true_eq] at found
                  obtain ⟨⟨piece, member, blank⟩, same⟩ := found
                  rw [← same]
                  exact .emptyComponent placeholder value kind form empty (blank ▸ member)
  · intro flawed
    cases flawed with
    | absent placeholder kind missing => simp [Resolution.flaw?, kind, missing]
    | empty placeholder kind form => simp [Resolution.flaw?, kind, form]
    | emptyComponent placeholder value kind form named member => simp [Resolution.flaw?, kind, form, named, member]

theorem filters_ascending (declaration : Declaration) (explicit : Bool) (order : Nat) (name : Option String) (route : Route)
    (compiled : Route.ofDeclaration declaration explicit order name = .ok route) :
    route.filters.Pairwise fun a b => a.1 < b.1 := by
  obtain ⟨segments, _, same⟩ := (of_declaration_ok_iff declaration explicit order name route).mp compiled
  rw [same]
  exact declaration.defaults.slots.ascending.filter _

section Resolve

variable (route : Route) (given : Params) (minimize : Bool)

theorem resolve_mismatched (rejection : Rejection) (found : Resolution.mismatch? route.filters given = some rejection) :
    route.resolve given minimize = .error rejection := by
  simp only [Route.resolve, found]
  rfl

theorem resolve_failed (rejection : Rejection) (matched : Resolution.mismatch? route.filters given = none)
    (found : Resolution.failure? route.segments given = some rejection) :
    route.resolve given minimize = .error rejection := by
  simp only [Route.resolve, matched, found]
  rfl

theorem resolve_flawed (rejection : Rejection) (matched : Resolution.mismatch? route.filters given = none)
    (admitted : Resolution.failure? route.segments given = none)
    (found : (Resolution.keep minimize given route.segments).findSome? (Resolution.flaw? given) = some rejection) :
    route.resolve given minimize = .error rejection := by
  simp only [Route.resolve, matched, admitted, found]
  rfl

theorem resolve_kept (matched : Resolution.mismatch? route.filters given = none)
    (admitted : Resolution.failure? route.segments given = none)
    (sound : (Resolution.keep minimize given route.segments).findSome? (Resolution.flaw? given) = none) :
    route.resolve given minimize =
      .ok ⟨(Resolution.keep minimize given route.segments).map fun segment =>
        (segment, (segment.effective given).map Value.form)⟩ := by
  simp only [Route.resolve, matched, admitted, sound]
  rfl

variable (ascending : route.filters.Pairwise fun a b => a.1 < b.1)

include ascending

-- Each way to an outcome is one way through the checks.
theorem outcome_resolved (outcome : Except Rejection Resolution) (reached : Outcome route given minimize outcome) :
    route.resolve given minimize = outcome := by
  cases reached with
  | mismatch name mismatched least =>
      exact resolve_mismatched route given minimize _
        ((mismatch_some_iff route.filters given ascending _).mpr ⟨name, rfl, mismatched, least⟩)
  | failure before placeholder after value matched split quiet failing =>
      exact resolve_failed route given minimize _ ((mismatch_none_iff route.filters given).mpr matched)
        ((failure_some_iff route given _).mpr ⟨before, placeholder, after, value, rfl, split, quiet, failing⟩)
  | flaw count before segment after rejection matched admitted least split quiet flawed =>
      apply resolve_flawed route given minimize _ ((mismatch_none_iff route.filters given).mpr matched)
        ((failure_none_iff route given).mpr admitted)
      rw [keep_take minimize given route.segments count least]
      exact (find_some_iff _ _ (flaw_some_iff given) _ _).mpr ⟨before, segment, after, split, flawed, quiet⟩
  | kept count matched admitted least sound =>
      rw [← keep_take minimize given route.segments count least] at sound ⊢
      exact resolve_kept route given minimize ((mismatch_none_iff route.filters given).mpr matched)
        ((failure_none_iff route given).mpr admitted) ((find_none_iff _ _ (flaw_some_iff given) _).mpr sound)

theorem resolved_outcome : Outcome route given minimize (route.resolve given minimize) := by
  have least := keep_least minimize given route.segments
  have taken := keep_take minimize given route.segments _ least
  cases mismatch : Resolution.mismatch? route.filters given with
  | some rejection =>
      obtain ⟨name, same, mismatched, first⟩ := (mismatch_some_iff route.filters given ascending rejection).mp mismatch
      rw [resolve_mismatched route given minimize rejection mismatch, same]
      exact .mismatch name mismatched first
  | none =>
      have matched := (mismatch_none_iff route.filters given).mp mismatch
      cases failure : Resolution.failure? route.segments given with
      | some rejection =>
          obtain ⟨before, placeholder, after, value, same, split, quiet, failing⟩ :=
            (failure_some_iff route given rejection).mp failure
          rw [resolve_failed route given minimize rejection mismatch failure, same]
          exact .failure before placeholder after value matched split quiet failing
      | none =>
          have admitted := (failure_none_iff route given).mp failure
          cases flaw : (Resolution.keep minimize given route.segments).findSome? (Resolution.flaw? given) with
          | some rejection =>
              obtain ⟨before, segment, after, split, flawed, quiet⟩ :=
                (find_some_iff _ _ (flaw_some_iff given) _ rejection).mp flaw
              rw [resolve_flawed route given minimize rejection mismatch failure flaw]
              exact .flaw _ before segment after rejection matched admitted least (taken ▸ split) quiet flawed
          | none =>
              have sound := (find_none_iff _ _ (flaw_some_iff given) _).mp flaw
              rw [resolve_kept route given minimize mismatch failure flaw, taken]
              rw [taken] at sound
              exact .kept _ matched admitted least sound

end Resolve

-- A name is found in a resolution if and only if its placeholder is kept and has a value.
theorem kept_value_iff (route : Route) (given : Params) (minimize : Bool) (resolution : Resolution) (keeps : Compiled route)
    (resolved : route.resolve given minimize = .ok resolution) (name value : String) :
    resolution.value? name = some value ↔
      ∃ placeholder, .slot placeholder ∈ resolution.kept.map (·.1) ∧ placeholder.name = name ∧
        (placeholder.effective given).map Value.form = some value := by
  constructor
  · intro found
    obtain ⟨⟨segment, form⟩, first, same⟩ := Option.bind_eq_some_iff.mp found
    have member := List.mem_of_find?_eq_some first
    have named : segment.name? = some name := by simpa using List.find?_some first
    have valued := (kept_pair route given minimize resolution resolved segment form member).2.1
    cases segment with
    | literal text => cases named
    | slot placeholder =>
        refine ⟨placeholder, List.mem_map.mpr ⟨_, member, rfl⟩, Option.some.inj named, ?_⟩
        rw [← same, valued]
        rfl
  · intro ⟨placeholder, inside, named, form⟩
    obtain ⟨⟨segment, value'⟩, member, same⟩ := List.mem_map.mp inside
    cases same
    have valued := (kept_pair route given minimize resolution resolved _ value' member).2.1
    rw [← named, kept_value route given minimize resolution keeps resolved placeholder value' member, valued, ← form]
    rfl

theorem resolve_outcome (declaration : Declaration) (explicit : Bool) (order : Nat) (name : Option String) (route : Route)
    (compiled : Route.ofDeclaration declaration explicit order name = .ok route) (given : Params) (minimize : Bool) :
    (∀ outcome, route.resolve given minimize = outcome ↔ Outcome route given minimize outcome) ∧
      ∀ resolution, route.resolve given minimize = .ok resolution → ∀ query value,
        resolution.value? query = some value ↔
          ∃ placeholder, .slot placeholder ∈ resolution.kept.map (·.1) ∧ placeholder.name = query ∧
            (placeholder.effective given).map Value.form = some value := by
  have ascending := filters_ascending declaration explicit order name route compiled
  have keeps := (of_declaration_compiled declaration explicit order name route compiled).2
  refine ⟨fun outcome => ⟨?_, outcome_resolved route given minimize ascending outcome⟩, ?_⟩
  · intro same
    rw [← same]
    exact resolved_outcome route given minimize ascending
  · intro resolution resolved query value
    exact kept_value_iff route given minimize resolution keeps resolved query value

-- Two filters, and a month whose default would be left out of a path and does not fit its own requirement.
def almanac : Declaration where
  template := "a/:year/:month/*rest"
  defaults := .ofList [("zone", some (.int 1)), ("month", some (.text "")), ("lang", none)]

theorem resolve_outcome_of_almanac :
    ∃ route, Route.ofDeclaration almanac false 0 none = .ok route ∧
      Outcome route (.ofList [("lang", some (.text "fr")), ("zone", some (.int 2))]) true (.error (.filterMismatch "lang")) ∧
      Outcome route (.ofList [("year", some (.int 2004)), ("zone", some (.text "1"))]) true
        (.error (.requirementFailed "month" "")) ∧
      Outcome route (.ofList [("month", some (.int 5)), ("rest", some (.text "x"))]) true (.error (.missingValue "year")) ∧
      ∃ resolution, Outcome route (.ofList [("year", some (.int 2004)), ("month", some (.int 5))]) false (.ok resolution) ∧
        resolution.kept.length = 3 ∧ resolution.value? "month" = some "5" :=
  ⟨_, rfl, ((resolve_outcome almanac false 0 none _ rfl _ true).1 _).mp rfl,
    ((resolve_outcome almanac false 0 none _ rfl _ true).1 _).mp rfl,
    ((resolve_outcome almanac false 0 none _ rfl _ true).1 _).mp rfl,
    _, ((resolve_outcome almanac false 0 none _ rfl _ false).1 _).mp rfl, rfl, rfl⟩

end PathTemplates
