import PathTemplates.Proofs.View

set_option autoImplicit false

/-! What a path leaves out at its end: as many segments as can be left out, and none that stands before one that cannot. -/

namespace PathTemplates

-- A placeholder that a path can do without at its end: an optional one without a value or, in a minimized path, with the value
-- that is its default anyway.
def Dispensable (minimize : Bool) (given : Params) (segment : Segment) : Prop :=
  ∃ placeholder, segment = .slot placeholder ∧ placeholder.optional = true ∧
    ((placeholder.effective given).map Value.form = none ∨
      minimize = true ∧ (placeholder.effective given).map Value.form = placeholder.default.map Value.form)

-- How many segments may be kept so that all behind them can be left out.
def keptCounts (minimize : Bool) (given : Params) (segments : List Segment) : Set Nat :=
  {count | ∀ segment ∈ segments.drop count, Dispensable minimize given segment}

theorem droppable_iff (minimize : Bool) (given : Params) (segment : Segment) :
    segment.droppable minimize given = true ↔ Dispensable minimize given segment := by
  cases segment with
  | literal text => simp [Segment.droppable, Segment.placeholder?, Dispensable]
  | slot placeholder =>
      have form := droppable_form placeholder minimize (placeholder.effective given)
      simp [Segment.droppable, Segment.placeholder?, Dispensable, form]

-- The form of a value that can be left out is that of the default.
theorem dispensable_default (minimize : Bool) (given : Params) (placeholder : Placeholder)
    (dispensable : Dispensable minimize given (.slot placeholder)) :
    (placeholder.effective given).map Value.form = placeholder.default.map Value.form := by
  obtain ⟨same, found, _, either⟩ := dispensable
  cases found
  rcases either with absent | ⟨_, default⟩
  · rw [effective_form, Option.or_eq_none_iff] at absent
    rw [effective_form, absent.1, Option.none_or]
  · exact default

-- The segments that are kept, and behind them those that are left out.
theorem keep_split (minimize : Bool) (given : Params) (segments : List Segment) :
    ∃ dropped, segments = Resolution.keep minimize given segments ++ dropped ∧
      ∀ segment ∈ dropped, Dispensable minimize given segment := by
  refine ⟨(segments.reverse.takeWhile (·.droppable minimize given)).reverse, ?_, fun segment member => ?_⟩
  · rw [Resolution.keep, ← List.reverse_append, List.takeWhile_append_dropWhile, List.reverse_reverse]
  · have passed := List.mem_takeWhile_imp (List.mem_reverse.mp member)
    exact (droppable_iff minimize given segment).mp passed

theorem keep_last (minimize : Bool) (given : Params) (segments before : List Segment) (last : Segment)
    (kept : Resolution.keep minimize given segments = before ++ [last]) : ¬ Dispensable minimize given last := by
  have front : segments.reverse.dropWhile (·.droppable minimize given) = last :: before.reverse := by
    rw [Resolution.keep, List.reverse_eq_iff] at kept
    simpa using kept
  have some : segments.reverse.dropWhile (·.droppable minimize given) ≠ [] := by simp [front]
  have stays := List.head_dropWhile_not _ some
  simp only [front, List.head_cons] at stays
  rw [← droppable_iff, stays]
  exact Bool.false_ne_true

theorem keep_least (minimize : Bool) (given : Params) (segments : List Segment) :
    IsLeast (keptCounts minimize given segments) (Resolution.keep minimize given segments).length := by
  obtain ⟨dropped, whole, dispensable⟩ := keep_split minimize given segments
  constructor
  · intro segment member
    have rest : segments.drop (Resolution.keep minimize given segments).length = dropped := by
      generalize Resolution.keep minimize given segments = kept at whole
      rw [whole, List.drop_left]
    rw [rest] at member
    exact dispensable segment member
  · intro count enough
    by_contra fewer
    cases kept : Resolution.keep minimize given segments using List.reverseRecOn with
    | nil => simp [kept] at fewer
    | append_singleton before last _ =>
        rw [kept] at whole fewer
        have room : count ≤ before.length := by simpa using fewer
        have inside : last ∈ segments.drop count := by
          rw [whole, List.append_assoc, List.drop_append_of_le_length room]
          simp
        exact keep_last minimize given segments before last kept (enough last inside)

theorem keep_take (minimize : Bool) (given : Params) (segments : List Segment) (count : Nat)
    (least : IsLeast (keptCounts minimize given segments) count) :
    Resolution.keep minimize given segments = segments.take count := by
  obtain ⟨dropped, whole, _⟩ := keep_split minimize given segments
  rw [← (keep_least minimize given segments).unique least]
  exact List.prefix_iff_eq_take.mp ⟨dropped, whole.symm⟩

end PathTemplates
