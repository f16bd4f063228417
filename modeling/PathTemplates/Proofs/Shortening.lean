import PathTemplates.Proofs.Outcome

set_option autoImplicit false

/-!
When one path is the start of another: if it is written of leading parts of what the other is written of. And when fewer segments
are kept: if more of them can be left out.
-/

namespace PathTemplates

-- The path of some parts. The root is a single slash with or without a slash appended.
def writtenPath (parts : List String) (appendSlash : Bool) : String :=
  if Text.slashed parts = "" || appendSlash then Text.slashed parts ++ "/" else Text.slashed parts

theorem written_path_prefix (shorter longer : List String) (leading : shorter <+: longer) (appendSlash : Bool) :
    (writtenPath shorter appendSlash).toList <+: (writtenPath longer appendSlash).toList := by
  obtain ⟨more, rfl⟩ := leading
  cases more with
  | nil => simp
  | cons part rest =>
      have start : (Text.slashed shorter ++ "/").toList <+: (Text.slashed (shorter ++ part :: rest)).toList := by
        simp [Text.slashed_append, Text.slashed_cons, String.toList_append]
      have bare : (Text.slashed shorter).toList <+: (Text.slashed shorter ++ "/").toList := by simp
      have closed : (Text.slashed (shorter ++ part :: rest)).toList <+: (writtenPath (shorter ++ part :: rest) appendSlash).toList := by
        rw [writtenPath]
        split
        · simp
        · exact List.prefix_refl _
      refine List.IsPrefix.trans ?_ (start.trans closed)
      rw [writtenPath]
      split
      · exact List.prefix_refl _
      · exact bare

-- Where more elements are passed over, no more are left.
theorem drop_while_weaker {α : Type} (strict weak : α → Bool) (list : List α)
    (weaker : ∀ x ∈ list, strict x = true → weak x = true) : list.dropWhile weak <:+ list.dropWhile strict := by
  induction list with
  | nil => exact List.suffix_refl []
  | cons x rest ih =>
      obtain ⟨head, tail⟩ := List.forall_mem_cons.mp weaker
      by_cases passed : strict x = true
      · rw [List.dropWhile_cons_of_pos passed, List.dropWhile_cons_of_pos (head passed)]
        exact ih tail
      · rw [List.dropWhile_cons_of_neg passed]
        exact List.dropWhile_suffix weak

theorem trimmed_prefix {α : Type} (strict weak : α → Bool) (list : List α)
    (weaker : ∀ x ∈ list, strict x = true → weak x = true) :
    (list.reverse.dropWhile weak).reverse <+: (list.reverse.dropWhile strict).reverse := by
  apply List.reverse_prefix.mpr
  apply drop_while_weaker
  intro x member
  exact weaker x (List.mem_reverse.mp member)

-- Parameters in which no check of a route finds a fault.
structure Accepts (route : Route) (given : Params) (minimize : Bool) : Prop where
  matched : Resolution.mismatch? route.filters given = none
  admitted : Resolution.failure? route.segments given = none
  sound : ∀ segment ∈ Resolution.keep minimize given route.segments, Resolution.flaw? given segment = none

def Route.keeping (route : Route) (given : Params) (minimize : Bool) : Resolution :=
  ⟨(Resolution.keep minimize given route.segments).map fun segment => (segment, segment.form? given)⟩

section Accepting

variable (route : Route) (given : Params)

theorem resolve_ok_iff (minimize : Bool) (resolution : Resolution) :
    route.resolve given minimize = .ok resolution ↔ Accepts route given minimize ∧ resolution = route.keeping given minimize := by
  constructor
  · intro resolved
    have matched : Resolution.mismatch? route.filters given = none := by
      by_contra found
      obtain ⟨rejection, found⟩ := Option.ne_none_iff_exists'.mp found
      cases (resolve_mismatched route given minimize rejection found).symm.trans resolved
    have admitted : Resolution.failure? route.segments given = none := by
      by_contra found
      obtain ⟨rejection, found⟩ := Option.ne_none_iff_exists'.mp found
      cases (resolve_failed route given minimize rejection matched found).symm.trans resolved
    obtain ⟨kept, sound⟩ := resolve_ok route given minimize resolution resolved
    exact ⟨⟨matched, admitted, sound⟩, congrArg Resolution.mk kept⟩
  · intro ⟨accepts, same⟩
    rw [same]
    exact resolve_kept route given minimize accepts.matched accepts.admitted (List.findSome?_eq_none_iff.mpr accepts.sound)

theorem path_ok_iff (options : PathOptions) (path : String) :
    route.path given options = .ok path ↔
      Accepts route given options.minimize ∧ path = (route.keeping given options.minimize).path options.appendSlash := by
  constructor
  · intro generated
    obtain ⟨resolution, resolved, written⟩ := path_ok route given options path generated
    obtain ⟨accepts, same⟩ := (resolve_ok_iff route given options.minimize resolution).mp resolved
    exact ⟨accepts, same ▸ written⟩
  · intro ⟨accepts, written⟩
    rw [Route.path, (resolve_ok_iff route given options.minimize _).mpr ⟨accepts, rfl⟩, written]
    rfl

theorem keeping_path (minimize appendSlash : Bool) :
    (route.keeping given minimize).path appendSlash =
      writtenPath ((Resolution.keep minimize given route.segments).flatMap fun segment =>
        Resolution.parts segment (segment.form? given)) appendSlash := by
  rw [← List.flatMap_map (fun segment => (segment, segment.form? given)) fun pair => Resolution.parts pair.1 pair.2]
  rfl

end Accepting

end PathTemplates
