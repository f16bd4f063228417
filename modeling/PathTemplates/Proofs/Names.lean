import PathTemplates.Params
import PathTemplates.Proofs.Forms

set_option autoImplicit false

/-! Lookups in maps from names, and what the key of parameters says of them. -/

namespace PathTemplates

namespace NameMap

variable {α : Type}

theorem lookup_cons_other (name other : String) (value : α) (rest : List (String × α)) (different : name ≠ other) :
    ((other, value) :: rest).lookup name = rest.lookup name := by
  simp [List.lookup_cons, beq_eq_false_iff_ne.mpr different]

theorem lookup_place (name : String) (value : α) (entries : List (String × α)) (query : String) :
    (place name value entries).lookup query = if query = name then some value else entries.lookup query := by
  have atFront (rest : List (String × α)) :
      ((name, value) :: rest).lookup query = if query = name then some value else rest.lookup query := by
    by_cases same : query = name
    · rw [same, List.lookup_cons_self, if_pos rfl]
    · rw [lookup_cons_other _ _ _ _ same, if_neg same]
  induction entries with
  | nil => exact atFront []
  | cons head rest ih =>
      obtain ⟨first, old⟩ := head
      by_cases less : name < first
      · rw [place, if_pos less]
        exact atFront _
      · by_cases found : name = first
        · subst found
          rw [place, if_neg less, if_pos rfl, atFront]
          by_cases same : query = name
          · rw [if_pos same, if_pos same]
          · rw [if_neg same, if_neg same, lookup_cons_other _ _ _ _ same]
        · rw [place, if_neg less, if_neg found]
          by_cases same : query = first
          · subst same
            rw [List.lookup_cons_self, if_neg (Ne.symm found), List.lookup_cons_self]
          · rw [lookup_cons_other _ _ _ _ same, ih, lookup_cons_other _ _ _ _ same]

-- What is not wanted of a name shows in no entry of that name, be it put in its place or not.
theorem filter_place (name : String) (value : α) (entries : List (String × α)) (wanted : String × α → Bool)
    (unwanted : ∀ other, wanted (name, other) = false) : (place name value entries).filter wanted = entries.filter wanted := by
  have dropped (other : α) (rest : List (String × α)) : ((name, other) :: rest).filter wanted = rest.filter wanted :=
    List.filter_cons_of_neg (by simp [unwanted])
  induction entries with
  | nil => exact dropped value []
  | cons head rest ih =>
      obtain ⟨first, old⟩ := head
      by_cases less : name < first
      · rw [place, if_pos less]
        exact dropped value _
      · by_cases found : name = first
        · subst found
          rw [place, if_neg less, if_pos rfl, dropped, dropped]
        · rw [place, if_neg less, if_neg found, List.filter_cons, List.filter_cons, ih]

@[simp] theorem get_insert (map : NameMap α) (name : String) (value : α) (query : String) :
    (map.insert name value).get? query = if query = name then some value else map.get? query :=
  lookup_place name value map.toList query

@[simp] theorem get_empty (query : String) : (empty : NameMap α).get? query = none := rfl

theorem contains_iff_get (map : NameMap α) (name : String) :
    map.contains name = true ↔ ∃ value, map.get? name = some value :=
  Option.isSome_iff_exists

theorem absent_of_above (name : String) (entries : List (String × α)) (above : ∀ entry ∈ entries, name < entry.1) :
    entries.lookup name = none := by
  refine List.lookup_eq_none_iff.mpr fun entry member => ?_
  exact bne_iff_ne.mpr (Std.ne_of_lt (above entry member))

theorem mem_iff_lookup_distinct (entries : List (String × α)) (distinct : (entries.map (·.1)).Nodup) (name : String) (value : α) :
    (name, value) ∈ entries ↔ entries.lookup name = some value := by
  induction entries with
  | nil => simp
  | cons head rest ih =>
      obtain ⟨fresh, tail⟩ := List.nodup_cons.mp distinct
      obtain ⟨first, old⟩ := head
      by_cases same : name = first
      · subst same
        have absent : (name, value) ∉ rest := fun member => fresh (List.mem_map.mpr ⟨_, member, rfl⟩)
        rw [List.lookup_cons_self, List.mem_cons, Option.some.injEq, Prod.mk.injEq]
        exact ⟨fun member => ((member.resolve_right absent).2).symm, fun found => .inl ⟨rfl, found.symm⟩⟩
      · rw [lookup_cons_other _ _ _ _ same, List.mem_cons, ih tail]
        exact or_iff_right fun equal => same (congrArg Prod.fst equal)

theorem ascending_distinct (entries : List (String × α)) (ascending : entries.Pairwise fun a b => a.1 < b.1) :
    (entries.map (·.1)).Nodup :=
  List.pairwise_map.mpr (ascending.imp Std.ne_of_lt)

theorem mem_iff_lookup (entries : List (String × α)) (ascending : entries.Pairwise fun a b => a.1 < b.1)
    (name : String) (value : α) : (name, value) ∈ entries ↔ entries.lookup name = some value :=
  mem_iff_lookup_distinct entries (ascending_distinct entries ascending) name value

theorem mem_iff_get (map : NameMap α) (name : String) (value : α) :
    (name, value) ∈ map.toList ↔ map.get? name = some value :=
  mem_iff_lookup map.toList map.ascending name value

-- Entries in ascending order are told by their lookups.
theorem lookup_ext (first second : List (String × α)) (firstAscending : first.Pairwise fun a b => a.1 < b.1)
    (secondAscending : second.Pairwise fun a b => a.1 < b.1) (same : ∀ name, first.lookup name = second.lookup name) :
    first = second := by
  have firstDistinct : first.Nodup := .of_map _ (ascending_distinct first firstAscending)
  have secondDistinct : second.Nodup := .of_map _ (ascending_distinct second secondAscending)
  have members (entry : String × α) : entry ∈ first ↔ entry ∈ second := by
    rw [mem_iff_lookup first firstAscending, mem_iff_lookup second secondAscending, same]
  have permuted : first.Perm second := (List.perm_ext_iff_of_nodup firstDistinct secondDistinct).mpr members
  refine permuted.eq_of_pairwise (fun a b _ _ less more => ?_) firstAscending secondAscending
  exact absurd (String.lt_trans less more) (Std.lt_irrefl)

theorem get_ext (map other : NameMap α) (same : ∀ name, map.get? name = other.get? name) : map = other := by
  obtain ⟨entries, ascending⟩ := map
  obtain ⟨others, otherAscending⟩ := other
  have equal : entries = others := lookup_ext entries others ascending otherAscending same
  subst equal
  rfl

end NameMap

namespace Params

def form? (params : Params) (name : String) : Option String := (params.value? name).map Value.form

theorem slot_declare (params : Params) (name : String) (slot : Option Value) (query : String) :
    (params.declare name slot).slots.get? query = if query = name then some slot else params.slots.get? query :=
  NameMap.get_insert params.slots name slot query

@[simp] theorem value_declare (params : Params) (name : String) (slot : Option Value) (query : String) :
    (params.declare name slot).value? query = if query = name then slot else params.value? query := by
  rw [value?, slot_declare]
  by_cases same : query = name <;> simp [same, value?]

@[simp] theorem declares_declare (params : Params) (name : String) (slot : Option Value) (query : String) :
    (params.declare name slot).declares query = if query = name then true else params.declares query := by
  rw [declares, NameMap.contains, slot_declare]
  by_cases same : query = name <;> simp [same, declares, NameMap.contains]

theorem key_of_above (name : String) (slots : List (String × Option Value)) (above : ∀ slot ∈ slots, name < slot.1) :
    ∀ entry ∈ keyOf slots, name < entry.1 := by
  intro entry member
  obtain ⟨slot, slotMember, value, _, same⟩ :
      ∃ slot ∈ slots, ∃ value, slot.2 = some value ∧ (slot.1, value.form) = entry := by
    simpa [keyOf] using member
  exact same ▸ above slot slotMember

-- A name without a value leaves no entry, and no later slot has its name.
theorem key_of_lookup (slots : List (String × Option Value)) (ascending : slots.Pairwise fun a b => a.1 < b.1)
    (name : String) : (keyOf slots).lookup name = (slots.lookup name).join.map Value.form := by
  induction slots with
  | nil => rfl
  | cons slot rest ih =>
      obtain ⟨above, tail⟩ := List.pairwise_cons.mp ascending
      obtain ⟨first, value⟩ := slot
      by_cases same : name = first
      · subst same
        rw [List.lookup_cons_self]
        cases value with
        | none => exact NameMap.absent_of_above name _ (key_of_above name rest above)
        | some value => exact List.lookup_cons_self
      · rw [NameMap.lookup_cons_other _ _ _ _ same, ← ih tail]
        cases value with
        | none => rfl
        | some value => exact NameMap.lookup_cons_other _ _ _ _ same

theorem key_lookup (params : Params) (name : String) : params.key.lookup name = params.form? name :=
  key_of_lookup params.toList params.slots.ascending name

theorem key_ascending (params : Params) : params.key.Pairwise fun a b => a.1 < b.1 := by
  apply List.pairwise_filterMap.mpr
  apply params.slots.ascending.imp
  intro first second less a fromFirst b fromSecond
  obtain ⟨_, _, rfl⟩ := Option.map_eq_some_iff.mp fromFirst
  obtain ⟨_, _, rfl⟩ := Option.map_eq_some_iff.mp fromSecond
  exact less

theorem forms_of_key (p q : Params) (same : p.key = q.key) (name : String) : p.form? name = q.form? name := by
  rw [← key_lookup, ← key_lookup, same]

end Params

end PathTemplates
