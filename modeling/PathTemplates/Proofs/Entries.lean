import PathTemplates.Proofs.Names

set_option autoImplicit false

/-!
Maps built of entries. Where no two entries have one name, a map holds just the entries that it is built of, and neither what is
looked up in it nor what is sorted of it depends on the order that they come in.
-/

namespace PathTemplates

namespace NameMap

variable {α : Type}

theorem get_inserted (entries : List (String × α)) (distinct : (entries.map (·.1)).Nodup) (map : NameMap α) (name : String) :
    (entries.foldl (fun map entry => map.insert entry.1 entry.2) map).get? name = (entries.lookup name).or (map.get? name) := by
  induction entries generalizing map with
  | nil => rfl
  | cons entry rest ih =>
      obtain ⟨first, value⟩ := entry
      obtain ⟨fresh, tail⟩ := List.nodup_cons.mp distinct
      rw [List.foldl_cons, ih tail, get_insert]
      by_cases same : name = first
      · subst same
        have absent : rest.lookup name = none := by
          apply List.lookup_eq_none_iff.mpr
          intro entry member
          apply bne_iff_ne.mpr
          intro equal
          exact fresh (List.mem_map.mpr ⟨entry, member, equal.symm⟩)
        rw [if_pos rfl, List.lookup_cons_self, absent]
        rfl
      · rw [if_neg same, lookup_cons_other _ _ _ _ same]

theorem get_of_list (entries : List (String × α)) (distinct : (entries.map (·.1)).Nodup) (name : String) :
    (ofList entries).get? name = entries.lookup name := by
  rw [ofList, get_inserted entries distinct, get_empty, Option.or_none]

theorem of_list_permuted (entries : List (String × α)) (distinct : (entries.map (·.1)).Nodup) :
    (ofList entries).toList.Perm entries := by
  have own : ((ofList entries).toList.map (·.1)).Nodup := ascending_distinct _ (ofList entries).ascending
  apply (List.perm_ext_iff_of_nodup (List.Nodup.of_map _ own) (List.Nodup.of_map _ distinct)).mpr
  intro ⟨name, value⟩
  rw [mem_iff_get, get_of_list entries distinct, mem_iff_lookup_distinct entries distinct]

end NameMap

section Sorting

variable {α : Type} (list target : List α) (permuted : list.Perm target)

include permuted

-- Sorting gives the one list in order that has the same elements.
theorem sort_permuted (le : α → α → Bool) (trans : ∀ a b c, le a b = true → le b c = true → le a c = true)
    (total : ∀ a b, (le a b || le b a) = true) (sorted : target.Pairwise fun a b => le a b = true)
    (antisymm : ∀ a ∈ target, ∀ b ∈ target, le a b = true → le b a = true → a = b) : list.mergeSort le = target := by
  have shuffled : (list.mergeSort le).Perm target := (List.mergeSort_perm list le).trans permuted
  refine shuffled.eq_of_pairwise ?_ (List.pairwise_mergeSort trans total list) sorted
  intro a b inside member less more
  exact antisymm a (shuffled.mem_iff.mp inside) b member less more

-- Names tell the elements apart, be they names themselves or entries of a map.
theorem sort_named (name : α → String) (ascending : target.Pairwise fun a b => name a < name b) :
    list.mergeSort (fun a b => decide (name a ≤ name b)) = target := by
  have distinct : (target.map name).Nodup := List.pairwise_map.mpr (ascending.imp Std.ne_of_lt)
  apply sort_permuted list target permuted
  · intro a b c first second
    exact decide_eq_true (Std.le_trans (of_decide_eq_true first) (of_decide_eq_true second))
  · intro a b
    simpa using Std.le_total (a := name a) (b := name b)
  · exact ascending.imp fun less => decide_eq_true (Std.le_of_lt less)
  · intro a inside b member less more
    exact List.inj_on_of_nodup_map distinct inside member (Std.le_antisymm (of_decide_eq_true less) (of_decide_eq_true more))

end Sorting

end PathTemplates
