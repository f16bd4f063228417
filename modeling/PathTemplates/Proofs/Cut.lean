import PathTemplates.Proofs.Paths
import PathTemplates.Proofs.Trimming

set_option autoImplicit false

/-!
Where a path is cut. A scan from the right, which reads the segments and their values by their places, comes to the least count
of segments that can be kept, and it never reads a place where there is nothing.
-/

namespace PathTemplates

-- How many of `count` segments are kept. The scan fails where it would read a segment or a value that is not there.
def cut? (minimize : Bool) (segments : List Segment) (values : List (Option Value)) : Nat → Option Nat
  | 0 => some 0
  | count + 1 => do
      match (← segments[count]?).placeholder? with
      | none => return count + 1
      | some placeholder =>
          if placeholder.droppable minimize (← values[count]?) then cut? minimize segments values count
          else return count + 1

-- What a count of kept segments is to a route and to what is resolved of it.
structure CutAt (route : Route) (given : Params) (minimize : Bool) (count : Nat) : Prop where
  least : IsLeast (keptCounts minimize given route.segments) count
  scanned : cut? minimize route.segments (route.segments.map (·.effective given)) route.segments.length = some count
  kept : Resolution.keep minimize given route.segments = route.segments.take count
  stops : count = 0 ∨ ∃ segment, route.segments[count - 1]? = some segment ∧ segment.droppable minimize given = false
  literals : ∀ (i : Nat) text, route.segments[i]? = some (.literal text) → ∀ j ≤ i,
    (Resolution.keep minimize given route.segments)[j]? = route.segments[j]?
  paired : ∀ resolution, route.resolve given minimize = .ok resolution →
    resolution.kept = (route.segments.take count).zip ((route.segments.map (·.form? given)).take count) ∧
      (route.segments.take count).length = count ∧ ((route.segments.map (·.form? given)).take count).length = count

section Scan

variable (minimize : Bool) (given : Params) (segments : List Segment)

theorem cut_succ (count : Nat) (segment : Segment) (found : segments[count]? = some segment) :
    cut? minimize segments (segments.map (·.effective given)) (count + 1) =
      if segment.droppable minimize given then cut? minimize segments (segments.map (·.effective given)) count
      else some (count + 1) := by
  have value : (segments.map (·.effective given))[count]? = some (segment.effective given) := by
    rw [List.getElem?_map, found, Option.map_some]
  rw [cut?, found, value]
  cases segment with
  | literal text => rfl
  | slot placeholder => rfl

theorem kept_count_iff (count : Nat) (room : count < segments.length) :
    count ∈ keptCounts minimize given segments ↔
      segments[count].droppable minimize given = true ∧ count + 1 ∈ keptCounts minimize given segments := by
  simp only [keptCounts, Set.mem_ofPred_eq, droppable_iff]
  rw [List.drop_eq_getElem_cons room, List.forall_mem_cons]

-- The scan has passed nothing but segments that can be left out.
theorem cut_least (count : Nat) (inside : count ≤ segments.length) (passed : count ∈ keptCounts minimize given segments) :
    ∃ least, cut? minimize segments (segments.map (·.effective given)) count = some least ∧
      IsLeast (keptCounts minimize given segments) least := by
  induction count with
  | zero => exact ⟨0, rfl, passed, fun _ _ => Nat.zero_le _⟩
  | succ count ih =>
      have room : count < segments.length := inside
      have below := kept_count_iff minimize given segments count room
      rw [cut_succ minimize given segments count segments[count] (List.getElem?_eq_getElem room)]
      by_cases droppable : segments[count].droppable minimize given = true
      · rw [if_pos droppable]
        exact ih (Nat.le_of_lt room) (below.mpr ⟨droppable, passed⟩)
      · rw [if_neg droppable]
        refine ⟨count + 1, rfl, passed, fun fewer enough => ?_⟩
        by_contra less
        have here : count ∈ keptCounts minimize given segments := fun segment member =>
          enough segment (List.drop_subset_drop_left segments (by omega) member)
        exact droppable (below.mp here).1

theorem kept_last (count : Nat) (least : IsLeast (keptCounts minimize given segments) count) :
    count = 0 ∨ ∃ segment, segments[count - 1]? = some segment ∧ segment.droppable minimize given = false := by
  have within : segments.length ∈ keptCounts minimize given segments := by simp [keptCounts]
  have bound := least.2 within
  cases count with
  | zero => exact .inl rfl
  | succ before =>
      have room : before < segments.length := bound
      refine .inr ⟨segments[before], List.getElem?_eq_getElem room, Bool.eq_false_iff.mpr fun droppable => ?_⟩
      have fewer := least.2 ((kept_count_iff minimize given segments before room).mpr ⟨droppable, least.1⟩)
      omega

theorem literal_kept (count : Nat) (enough : count ∈ keptCounts minimize given segments) (i : Nat) (text : String)
    (found : segments[i]? = some (.literal text)) : i < count := by
  by_contra beyond
  have member : .literal text ∈ segments.drop count := by
    apply List.mem_of_getElem? (i := i - count)
    rw [List.getElem?_drop, Nat.add_sub_cancel' (Nat.le_of_not_lt beyond), found]
  obtain ⟨placeholder, slot, _⟩ := enough _ member
  cases slot

end Scan

theorem cut_is_least (route : Route) (given : Params) (minimize : Bool) : ∃ count, CutAt route given minimize count := by
  have behind : route.segments.length ∈ keptCounts minimize given route.segments := by simp [keptCounts]
  obtain ⟨count, scanned, least⟩ := cut_least minimize given route.segments _ (Nat.le_refl _) behind
  have bound : count ≤ route.segments.length := least.2 behind
  have kept := keep_take minimize given route.segments count least
  refine ⟨count, least, scanned, kept, kept_last minimize given route.segments count least, ?_, ?_⟩
  · intro i text found j before
    have room := literal_kept minimize given route.segments count least.1 i text found
    rw [kept, List.getElem?_take_of_lt (by omega)]
  · intro resolution resolved
    rw [(resolve_ok route given minimize resolution resolved).1, kept, ← List.map_take, List.length_map, List.length_take]
    exact ⟨List.map_prod_left_eq_zip, by omega, by omega⟩

end PathTemplates
