import PathTemplates.Path
import PathTemplates.Proofs.Names

set_option autoImplicit false

/-!
What a route reads of parameters: for each placeholder the form of the value in force, and for each filter whether it is
given another value. Parameters that agree on these get one resolution and one path.
-/

namespace PathTemplates

def Segment.form? (segment : Segment) (given : Params) : Option String := (segment.effective given).map Value.form

-- Whether parameters give a name a value other than a default.
def Params.differs (given : Params) (name : String) (default : Option Value) : Bool :=
  (given.form? name).any (some · ≠ default.map Value.form)

-- Two parameters that a route cannot tell apart.
structure SameView (route : Route) (p q : Params) : Prop where
  segments : ∀ segment ∈ route.segments, segment.form? p = segment.form? q
  filters : ∀ filter ∈ route.filters, p.differs filter.1 filter.2 = q.differs filter.1 filter.2

theorem effective_form (placeholder : Placeholder) (given : Params) :
    (placeholder.effective given).map Value.form =
      (given.form? placeholder.name).or (placeholder.default.map Value.form) := by
  unfold Placeholder.effective Params.form?
  cases given.value? placeholder.name <;> rfl

theorem droppable_form (placeholder : Placeholder) (minimize : Bool) (value : Option Value) :
    placeholder.droppable minimize value =
      (placeholder.optional && ((value.map Value.form).isNone ||
        (minimize && decide (value.map Value.form = placeholder.default.map Value.form)))) := by
  have same := Value.same_slot_iff_form value placeholder.default
  rw [Placeholder.droppable, Option.isNone_map, ← Bool.decide_congr same, Bool.decide_eq_true]

theorem differs_of_given (given : Params) (name : String) (value : Value) (default : Option Value)
    (present : given.value? name = some value) :
    given.differs name default = !Value.sameSlot (some value) default := by
  have same : Value.sameSlot (some value) default = true ↔ some value.form = default.map Value.form :=
    Value.same_slot_iff_form (some value) default
  simp only [Params.differs, Params.form?, present, Option.map_some, Option.any_some, ne_eq]
  rw [decide_not, ← Bool.decide_congr same, Bool.decide_eq_true]

theorem differs_iff (given : Params) (name : String) (default : Option Value) :
    given.differs name default = true ↔ ∃ value, given.value? name = some value ∧ some value.form ≠ default.map Value.form := by
  cases present : given.value? name <;> simp [Params.differs, Params.form?, present]

theorem mismatch_cons (name : String) (default : Option Value) (rest : List (String × Option Value)) (given : Params) :
    Resolution.mismatch? ((name, default) :: rest) given =
      if given.differs name default then some (.filterMismatch name) else Resolution.mismatch? rest given := by
  cases present : given.value? name with
  | none =>
      have agrees : given.differs name default = false := by simp [Params.differs, Params.form?, present]
      simp only [Resolution.mismatch?, List.findSome?_cons, present, agrees]
      rfl
  | some value =>
      rw [differs_of_given given name value default present]
      simp only [Resolution.mismatch?, List.findSome?_cons, present]
      cases Value.sameSlot (some value) default <;> rfl

theorem mismatch_same_view (filters : List (String × Option Value)) (p q : Params)
    (same : ∀ filter ∈ filters, p.differs filter.1 filter.2 = q.differs filter.1 filter.2) :
    Resolution.mismatch? filters p = Resolution.mismatch? filters q := by
  induction filters with
  | nil => rfl
  | cons filter rest ih =>
      obtain ⟨name, default⟩ := filter
      rw [mismatch_cons, mismatch_cons, same (name, default) List.mem_cons_self,
        ih fun filter member => same filter (List.mem_cons_of_mem _ member)]

-- The first placeholder rule of `Resolution.failure?`, on the form of the value.
def Placeholder.failure? (placeholder : Placeholder) (form : Option String) : Option Rejection :=
  form.bind fun form =>
    if placeholder.requirement.admits form then none else some (.requirementFailed placeholder.name form)

theorem failure_cons (segment : Segment) (rest : List Segment) (given : Params) :
    Resolution.failure? (segment :: rest) given =
      ((segment.placeholder?.bind fun placeholder => placeholder.failure? (segment.form? given)).or
        (Resolution.failure? rest given)) := by
  cases segment with
  | literal text => rfl
  | slot placeholder =>
      simp only [Resolution.failure?, Segment.placeholder?, List.filterMap_cons, List.findSome?_cons, Segment.form?,
        Segment.effective, Option.bind_some, Placeholder.failure?]
      cases placeholder.effective given with
      | none => rfl
      | some value =>
          dsimp only [Option.map_some, Option.bind_some]
          cases placeholder.requirement.admits value.form <;> rfl

theorem failure_same_view (segments : List Segment) (p q : Params)
    (same : ∀ segment ∈ segments, segment.form? p = segment.form? q) :
    Resolution.failure? segments p = Resolution.failure? segments q := by
  induction segments with
  | nil => rfl
  | cons segment rest ih =>
      rw [failure_cons, failure_cons, same segment List.mem_cons_self,
        ih fun segment member => same segment (List.mem_cons_of_mem _ member)]

theorem droppable_same_view (segment : Segment) (minimize : Bool) (p q : Params)
    (same : segment.form? p = segment.form? q) : segment.droppable minimize p = segment.droppable minimize q := by
  cases segment with
  | literal text => rfl
  | slot placeholder =>
      have forms : (placeholder.effective p).map Value.form = (placeholder.effective q).map Value.form := same
      simp only [Segment.droppable, Segment.placeholder?, Option.any_some, droppable_form, forms]

theorem drop_while_congr {α : Type} (f g : α → Bool) (list : List α) (same : ∀ x ∈ list, f x = g x) :
    list.dropWhile f = list.dropWhile g := by
  induction list with
  | nil => rfl
  | cons x rest ih =>
      obtain ⟨head, tail⟩ := List.forall_mem_cons.mp same
      rw [List.dropWhile_cons, List.dropWhile_cons, head, ih tail]

theorem keep_same_view (segments : List Segment) (minimize : Bool) (p q : Params)
    (same : ∀ segment ∈ segments, segment.form? p = segment.form? q) :
    Resolution.keep minimize p segments = Resolution.keep minimize q segments := by
  rw [Resolution.keep, Resolution.keep]
  apply congrArg List.reverse
  apply drop_while_congr
  intro segment member
  exact droppable_same_view segment minimize p q (same segment (List.mem_reverse.mp member))

theorem flaw_same_view (segment : Segment) (p q : Params) (same : segment.form? p = segment.form? q) :
    Resolution.flaw? p segment = Resolution.flaw? q segment := by
  cases segment with
  | literal text => rfl
  | slot placeholder =>
      have forms : (placeholder.effective p).map Value.form = (placeholder.effective q).map Value.form := same
      simp only [Resolution.flaw?, forms]

theorem keep_subset (minimize : Bool) (given : Params) (segments : List Segment) :
    ∀ segment ∈ Resolution.keep minimize given segments, segment ∈ segments := by
  intro segment member
  exact List.mem_reverse.mp ((List.dropWhile_suffix _).subset (List.mem_reverse.mp member))

theorem flaws_same_view (segments : List Segment) (p q : Params)
    (same : ∀ segment ∈ segments, segment.form? p = segment.form? q) :
    segments.findSome? (Resolution.flaw? p) = segments.findSome? (Resolution.flaw? q) := by
  induction segments with
  | nil => rfl
  | cons segment rest ih =>
      rw [List.findSome?_cons, List.findSome?_cons, flaw_same_view segment p q (same segment List.mem_cons_self),
        ih fun segment member => same segment (List.mem_cons_of_mem _ member)]

theorem resolve_same_view (route : Route) (minimize : Bool) (p q : Params) (same : SameView route p q) :
    route.resolve p minimize = route.resolve q minimize := by
  have kept := keep_same_view route.segments minimize p q same.segments
  have keptForms : ∀ segment ∈ Resolution.keep minimize q route.segments, segment.form? p = segment.form? q :=
    fun segment member => same.segments segment (keep_subset minimize q route.segments segment member)
  have written : (Resolution.keep minimize q route.segments).map (fun segment => (segment, segment.form? p)) =
      (Resolution.keep minimize q route.segments).map fun segment => (segment, segment.form? q) :=
    List.map_congr_left fun segment member => by rw [keptForms segment member]
  simp only [Route.resolve, kept, mismatch_same_view route.filters p q same.filters,
    failure_same_view route.segments p q same.segments, flaws_same_view _ p q keptForms]
  cases Resolution.mismatch? route.filters q <|> Resolution.failure? route.segments q <|>
      (Resolution.keep minimize q route.segments).findSome? (Resolution.flaw? q) with
  | none => exact congrArg (fun kept => Except.ok (Resolution.mk kept)) written
  | some rejection => rfl

theorem path_same_view (route : Route) (options : PathOptions) (p q : Params) (same : SameView route p q) :
    route.path p options = route.path q options := by
  rw [Route.path, Route.path, resolve_same_view route options.minimize p q same]

theorem same_view_of_forms (route : Route) (p q : Params) (same : ∀ name, p.form? name = q.form? name) :
    SameView route p q where
  segments := by
    intro segment _
    cases segment with
    | literal text => rfl
    | slot placeholder =>
        change (placeholder.effective p).map Value.form = (placeholder.effective q).map Value.form
        rw [effective_form, effective_form, same]
  filters := by
    intro filter _
    rw [Params.differs, Params.differs, same]

end PathTemplates
