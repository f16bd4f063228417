import Mathlib
import PathTemplates.Text.Pieces

set_option autoImplicit false

/-! Text cut at its slashes and put together again. -/

namespace PathTemplates.Text

def slashed (parts : List String) : String := String.join (parts.map ("/" ++ ·))

theorem slash_chars : "/".toList = ['/'] := rfl

theorem pieces_append (a b : String) : pieces (a ++ "/" ++ b) = pieces a ++ pieces b := by
  have chars : (a ++ "/" ++ b).toList = a.toList ++ '/' :: b.toList := by simp [String.toList_append, slash_chars]
  rw [pieces, chars, List.splitOn_append_cons_self, List.map_append]
  rfl

theorem components_append (a b : String) : components (a ++ "/" ++ b) = components a ++ components b := by
  rw [components, pieces_append, List.filter_append]
  rfl

theorem pieces_not_nil (text : String) : pieces text ≠ [] := by
  simp [pieces, List.splitOn_ne_nil]

theorem split_without (mark : Char) (chars : List Char) (piece : List Char) (member : piece ∈ chars.splitOn mark) :
    mark ∉ piece := by
  induction chars generalizing piece with
  | nil => simp_all
  | cons c rest ih =>
      rw [List.splitOn_cons_eq_if_modifyHead] at member
      by_cases same : c = mark
      · rw [if_pos (by simpa using same)] at member
        rcases List.mem_cons.mp member with empty | later
        · simp [empty]
        · exact ih piece later
      · rw [if_neg (by simpa using same)] at member
        cases split : rest.splitOn mark with
        | nil => exact absurd split (List.splitOn_ne_nil _ _)
        | cons first others =>
            rw [split, List.modifyHead_cons] at member
            rcases List.mem_cons.mp member with front | later
            · have tail : mark ∉ first := ih first (by simp [split])
              simp [front, tail, Ne.symm same]
            · exact ih piece (by simp [split, later])

theorem piece_without_slash (text piece : String) (member : piece ∈ pieces text) : '/' ∉ piece.toList := by
  obtain ⟨chars, inside, same⟩ := List.mem_map.mp member
  rw [← same, String.toList_ofList]
  exact split_without '/' text.toList chars inside

theorem component_iff (text component : String) : component ∈ components text ↔ component ∈ pieces text ∧ component ≠ "" := by
  simp [components]

theorem pieces_single (text : String) (noSlash : '/' ∉ text.toList) : pieces text = [text] := by
  rw [pieces, List.splitOn_eq_singleton noSlash]
  simp

theorem components_single (text : String) (noSlash : '/' ∉ text.toList) (named : text ≠ "") : components text = [text] := by
  simp [components, pieces_single text noSlash, named]

theorem slashed_cons (part : String) (parts : List String) : slashed (part :: parts) = "/" ++ part ++ slashed parts := by
  simp [slashed, String.join_cons]

theorem slashed_append (a b : List String) : slashed (a ++ b) = slashed a ++ slashed b := by
  simp [slashed, String.join_append]

theorem slashed_empty_iff (parts : List String) : slashed parts = "" ↔ parts = [] := by
  cases parts with
  | nil => simp [slashed]
  | cons part rest => simp [slashed_cons, String.append_eq_empty_iff]

theorem slashed_eq_intercalate (part : String) (parts : List String) :
    slashed (part :: parts) = "/" ++ "/".intercalate (part :: parts) := by
  induction parts generalizing part with
  | nil => simp [slashed]
  | cons next rest ih =>
      rw [slashed_cons, ih next, String.intercalate_cons_cons]
      simp [String.append_assoc]

theorem intercalate_pieces (text : String) : "/".intercalate (pieces text) = text := by
  rw [← String.toList_inj, String.toList_intercalate, pieces, List.map_map, slash_chars]
  have same : String.toList ∘ String.ofList = id := by
    funext chars
    exact String.toList_ofList
  rw [same, List.map_id, List.intercalate_splitOn]

-- A text behind a slash is its pieces behind a slash each.
theorem slashed_pieces (text : String) : slashed (pieces text) = slashed [text] := by
  cases split : pieces text with
  | nil => exact absurd split (pieces_not_nil text)
  | cons first rest =>
      rw [slashed_eq_intercalate, ← split, intercalate_pieces, slashed_eq_intercalate, String.intercalate_singleton]

theorem slashed_flat_map {α : Type} (list : List α) (f g : α → List String)
    (same : ∀ x ∈ list, slashed (f x) = slashed (g x)) : slashed (list.flatMap f) = slashed (list.flatMap g) := by
  induction list with
  | nil => rfl
  | cons x rest ih =>
      rw [List.flatMap_cons, List.flatMap_cons, slashed_append, slashed_append, same x List.mem_cons_self,
        ih fun y member => same y (List.mem_cons_of_mem _ member)]

theorem slashed_chars (parts : List String) :
    (slashed parts).toList = parts.flatMap fun part => '/' :: part.toList := by
  simp [slashed, List.flatMap_map, String.toList_append, slash_chars]

theorem skip_slash_free (chars rest : List Char) (noSlash : '/' ∉ chars) (double : ['/', '/'] <:+: chars ++ rest) :
    ['/', '/'] <:+: rest := by
  induction chars with
  | nil => exact double
  | cons c chars ih =>
      rw [List.cons_append, List.infix_cons_iff] at double
      rcases double with atStart | later
      · have same : '/' = c := (List.cons_prefix_cons.mp atStart).1
        exact absurd (same ▸ List.mem_cons_self) noSlash
      · exact ih (fun member => noSlash (List.mem_cons_of_mem _ member)) later

-- A part without slashes parts the slash before it from the slash behind it.
theorem slashed_single_slashes (parts : List String) (tail : List Char) (short : tail.length ≤ 1)
    (good : ∀ part ∈ parts, part ≠ "" ∧ '/' ∉ part.toList) :
    ¬ ['/', '/'] <:+: (slashed parts).toList ++ tail := by
  rw [slashed_chars]
  induction parts with
  | nil =>
      intro double
      have bound := double.length_le
      simp at bound
      omega
  | cons part parts ih =>
      obtain ⟨named, noSlash⟩ := good part List.mem_cons_self
      intro double
      rw [List.flatMap_cons, List.cons_append, List.cons_append, List.append_assoc, List.infix_cons_iff] at double
      rcases double with atStart | later
      · cases chars : part.toList with
        | nil => exact named (String.toList_eq_nil_iff.mp chars)
        | cons c rest =>
            rw [chars] at atStart noSlash
            have same : '/' = c := by simpa using atStart
            exact noSlash (same ▸ List.mem_cons_self)
      · exact ih (fun other member => good other (List.mem_cons_of_mem _ member)) (skip_slash_free _ _ noSlash later)

end PathTemplates.Text
