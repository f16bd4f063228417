import PathTemplates.Proofs.Anchoring
import PathTemplates.Proofs.Pieces
import PathTemplates.Template

set_option autoImplicit false

/-!
What the derived requirements admit. A repetition spans a text where the texts of its steps stand one behind the other, so the
requirement of several components admits the texts whose pieces between slashes are not empty.
-/

namespace PathTemplates

namespace Regex

-- A part that stands in a text from place i to place j.
def Stands (chars part : List Char) (i j : Nat) : Prop := j = i + part.length ∧ part <+: chars.drop i

section Standing

variable (chars : List Char)

theorem stands_nil (i j : Nat) : Stands chars [] i j ↔ i = j := by
  simp [Stands, eq_comm]

theorem stands_append (first rest : List Char) (i k : Nat) :
    Stands chars (first ++ rest) i k ↔ ∃ j, Stands chars first i j ∧ Stands chars rest j k := by
  constructor
  · intro ⟨stop, after, split⟩
    rw [List.length_append] at stop
    refine ⟨i + first.length, ⟨rfl, rest ++ after, by rw [← split, List.append_assoc]⟩, by omega, after, ?_⟩
    rw [← List.drop_drop, ← split, List.append_assoc, List.drop_left]
  · intro ⟨j, ⟨middle, after, split⟩, stop, later, splitRest⟩
    rw [middle, ← List.drop_drop, ← split, List.drop_left] at splitRest
    refine ⟨by rw [List.length_append]; omega, later, ?_⟩
    rw [← split, ← splitRest, List.append_assoc]

theorem stands_char (c : Char) (i j : Nat) : Stands chars [c] i j ↔ j = i + 1 ∧ chars[i]? = some c := by
  rw [Stands, List.cons_prefix_iff, ← List.head?_drop]
  cases chars.drop i <;> simp [eq_comm]

theorem stands_whole (part : List Char) : Stands chars part 0 chars.length ↔ part = chars := by
  constructor
  · intro ⟨length, start⟩
    rw [List.drop_zero] at start
    exact start.eq_of_length (by omega)
  · intro same
    rw [same]
    exact ⟨by simp, by simp⟩

-- If a step spans what is written for something fit, then a chain of steps spans what is written for a list of such things.
theorem chain_stands_iff {α : Type} (step : Nat → Nat → Prop) (fit : α → Prop) (write : α → List Char)
    (told : ∀ i j, step i j ↔ ∃ a, fit a ∧ Stands chars (write a) i j) (n i k : Nat) :
    Chain step n i k ↔ ∃ list : List α, list.length = n ∧ (∀ a ∈ list, fit a) ∧ Stands chars (list.flatMap write) i k := by
  induction n generalizing i with
  | zero => simp [Chain, stands_nil]
  | succ n ih =>
      constructor
      · rintro ⟨j, first, chain⟩
        obtain ⟨a, fits, here⟩ := (told i j).mp first
        obtain ⟨list, length, others, later⟩ := (ih j).mp chain
        refine ⟨a :: list, by rw [List.length_cons, length], List.forall_mem_cons.mpr ⟨fits, others⟩, ?_⟩
        rw [List.flatMap_cons]
        exact (stands_append chars _ _ i k).mpr ⟨j, here, later⟩
      · rintro ⟨list, length, all, stands⟩
        cases list with
        | nil => cases length
        | cons a list =>
            obtain ⟨fits, others⟩ := List.forall_mem_cons.mp all
            obtain ⟨j, here, later⟩ := (stands_append chars _ _ i k).mp stands
            exact ⟨j, (told i j).mpr ⟨a, fits, here⟩, (ih j).mpr ⟨list, Nat.succ.inj length, others, later⟩⟩

theorem spans_many_iff {α : Type} (body : Pattern) (fit : α → Prop) (write : α → List Char)
    (told : ∀ i j, Spans chars.toArray body i j ↔ ∃ a, fit a ∧ Stands chars (write a) i j) (least : Nat) (greedy : Bool)
    (i k : Nat) :
    Spans chars.toArray (.many least none body greedy) i k ↔
      ∃ list : List α, least ≤ list.length ∧ (∀ a ∈ list, fit a) ∧ Stands chars (list.flatMap write) i k := by
  constructor
  · intro ⟨n, enough, _, chain⟩
    obtain ⟨list, length, all, stands⟩ := (chain_stands_iff chars _ fit write told n i k).mp chain
    exact ⟨list, length ▸ enough, all, stands⟩
  · intro ⟨list, enough, all, stands⟩
    exact ⟨list.length, enough, by simp, (chain_stands_iff chars _ fit write told _ i k).mpr ⟨list, rfl, all, stands⟩⟩

theorem spans_one_iff (set : CharSet) (unicode : Bool) (i j : Nat) :
    Spans chars.toArray (.one set unicode) i j ↔ ∃ c, set.contains c = true ∧ Stands chars [c] i j := by
  simp only [stands_char, Spans, List.getElem?_toArray]
  constructor
  · rintro ⟨next, c, found, member⟩
    exact ⟨c, member, next, found⟩
  · rintro ⟨c, member, next, found⟩
    exact ⟨next, c, found, member⟩

theorem spans_many_one_iff (set : CharSet) (unicode greedy : Bool) (least i k : Nat) :
    Spans chars.toArray (.many least none (.one set unicode) greedy) i k ↔
      ∃ word : List Char, least ≤ word.length ∧ (∀ c ∈ word, set.contains c = true) ∧ Stands chars word i k := by
  rw [spans_many_iff chars _ _ _ (spans_one_iff chars set unicode)]
  simp only [List.flatMap_singleton']

end Standing

end Regex

namespace Requirement

open Regex (Expression Pattern Spans Stands Tree)

theorem not_slash_contains (c : Char) : (CharSet.single '/').compl.contains c = true ↔ c ≠ '/' := by
  have codes : (CharSet.single '/').compl = ⟨[⟨0, 46⟩, ⟨48, 0x10FFFF⟩]⟩ := by decide
  have slash : '/'.toNat = 47 := rfl
  have bound : c.toNat < 0xD800 ∨ 0xDFFF < c.toNat ∧ c.toNat < 0x110000 := c.valid
  have same : c = '/' ↔ c.toNat = 47 := by rw [← slash, Char.toNat_inj]
  simp only [codes, CharSet.contains, CharSet.hasCode, CodeRange.contains, List.any_cons, List.any_nil, Bool.or_false,
    Bool.or_eq_true, Bool.and_eq_true, decide_eq_true_eq, ne_eq, same]
  omega

theorem slash_contains (c : Char) : (CharSet.single '/').contains c = true ↔ c = '/' := by
  have slash : '/'.toNat = 47 := rfl
  rw [← Char.toNat_inj, slash]
  simp only [CharSet.single, CodeRange.single, CharSet.contains, CharSet.hasCode, CodeRange.contains, List.any_cons,
    List.any_nil, Bool.or_false, Bool.and_eq_true, decide_eq_true_eq, slash]
  omega

theorem all_contains (c : Char) : CharSet.all.contains c = true := by
  have bound : c.toNat < 0xD800 ∨ 0xDFFF < c.toNat ∧ c.toNat < 0x110000 := c.valid
  simp only [CharSet.all, CharSet.contains, CharSet.hasCode, CodeRange.contains, List.any_cons, List.any_nil, Bool.or_false,
    Bool.and_eq_true, decide_eq_true_eq]
  omega

def Component (word : List Char) : Prop := word ≠ [] ∧ '/' ∉ word

-- One component, and behind it any number of others behind a slash each.
def Components (chars : List Char) : Prop :=
  ∃ (first : List Char) (words : List (List Char)), Component first ∧ (∀ word ∈ words, Component word) ∧
    first ++ words.flatMap ('/' :: ·) = chars

theorem slash_free_proper : slashFree.Proper := ⟨by simp, trivial⟩

theorem more_components_proper : moreComponents.Proper := ⟨by simp, trivial, slash_free_proper⟩

theorem spans_slash_free_iff (chars : List Char) (i j : Nat) :
    Spans chars.toArray slashFree i j ↔ ∃ word, Component word ∧ Stands chars word i j := by
  rw [slashFree, Regex.spans_many_one_iff]
  refine exists_congr fun word => ?_
  have free : (∀ c ∈ word, (CharSet.single '/').compl.contains c = true) ↔ '/' ∉ word := by
    simp only [not_slash_contains]
    exact List.forall_mem_ne'
  rw [free, Component, ← and_assoc, Nat.one_le_iff_ne_zero, ne_eq, ne_eq, List.length_eq_zero_iff]

theorem spans_slashed_iff (chars : List Char) (i k : Nat) :
    Spans chars.toArray (.cat (.one (.single '/')) slashFree) i k ↔
      ∃ word, Component word ∧ Stands chars ('/' :: word) i k := by
  have behind (word : List Char) : Stands chars ('/' :: word) i k ↔ ∃ j, Stands chars ['/'] i j ∧ Stands chars word j k :=
    Regex.stands_append chars ['/'] word i k
  constructor
  · intro ⟨j, first, rest⟩
    obtain ⟨c, slash, here⟩ := (Regex.spans_one_iff chars _ _ i j).mp first
    obtain ⟨word, component, later⟩ := (spans_slash_free_iff chars j k).mp rest
    rw [(slash_contains c).mp slash] at here
    exact ⟨word, component, (behind word).mpr ⟨j, here, later⟩⟩
  · intro ⟨word, component, stands⟩
    obtain ⟨j, here, later⟩ := (behind word).mp stands
    exact ⟨j, (Regex.spans_one_iff chars _ _ i j).mpr ⟨'/', (slash_contains '/').mpr rfl, here⟩,
      (spans_slash_free_iff chars j k).mpr ⟨word, component, later⟩⟩

theorem spans_more_iff (chars : List Char) (i k : Nat) :
    Spans chars.toArray moreComponents i k ↔
      ∃ words : List (List Char), (∀ word ∈ words, Component word) ∧ Stands chars (words.flatMap ('/' :: ·)) i k := by
  rw [moreComponents, Regex.spans_many_iff chars _ _ _ (spans_slashed_iff chars)]
  simp

-- Where one part stands behind the other, the two fill a text if they are the text.
theorem spans_components_iff (chars : List Char) :
    Spans chars.toArray (.cat slashFree moreComponents) 0 chars.length ↔ Components chars := by
  constructor
  · intro ⟨j, head, tail⟩
    obtain ⟨first, component, here⟩ := (spans_slash_free_iff chars 0 j).mp head
    obtain ⟨words, components, later⟩ := (spans_more_iff chars j chars.length).mp tail
    exact ⟨first, words, component, components,
      (Regex.stands_whole chars _).mp ((Regex.stands_append chars _ _ 0 _).mpr ⟨j, here, later⟩)⟩
  · intro ⟨first, words, component, components, same⟩
    obtain ⟨j, here, later⟩ := (Regex.stands_append chars _ _ 0 _).mp ((Regex.stands_whole chars _).mpr same)
    exact ⟨j, (spans_slash_free_iff chars 0 j).mpr ⟨first, component, here⟩,
      (spans_more_iff chars j _).mpr ⟨words, components, later⟩⟩

theorem intercalate_slashed (first : List Char) (words : List (List Char)) :
    ['/'].intercalate (first :: words) = first ++ words.flatMap ('/' :: ·) := by
  induction words generalizing first with
  | nil => simp
  | cons next rest ih => rw [List.intercalate_cons_cons, ih, List.flatMap_cons, List.append_assoc]; rfl

-- Cut at its slashes, a text gives the components that it is made of, and no other pieces if they are all that it is made of.
theorem components_iff_pieces (chars : List Char) : Components chars ↔ ∀ piece ∈ chars.splitOn '/', piece ≠ [] := by
  constructor
  · intro ⟨first, words, component, components, same⟩ piece member
    have all : ∀ word ∈ first :: words, Component word := List.forall_mem_cons.mpr ⟨component, components⟩
    rw [← same, ← intercalate_slashed, List.splitOn_intercalate '/' (fun word inside => (all word inside).2) (by simp)] at member
    exact (all piece member).1
  · intro named
    have all : ∀ word ∈ chars.splitOn '/', Component word := fun word member =>
      ⟨named word member, Text.split_without '/' chars word member⟩
    have whole : ['/'].intercalate (chars.splitOn '/') = chars := List.intercalate_splitOn '/'
    cases split : chars.splitOn '/' with
    | nil => exact absurd split (List.splitOn_ne_nil _ _)
    | cons first words =>
        rw [split] at all whole
        obtain ⟨component, components⟩ := List.forall_mem_cons.mp all
        exact ⟨first, words, component, components, by rw [← intercalate_slashed, whole]⟩

theorem one_component_admits_iff (value : String) :
    oneComponent.admits value = true ↔ value ≠ "" ∧ '/' ∉ value.toList := by
  have anchored : oneComponent.admits value = slashFree.whole.matchesIn value := rfl
  have named : value.toList ≠ [] ↔ value ≠ "" := not_congr String.toList_eq_nil_iff
  rw [anchored, Regex.matches_whole_iff slashFree slash_free_proper, spans_slash_free_iff]
  simp only [Regex.stands_whole, exists_eq_right, Component, named]

theorem anything_admits (value : String) : anything.admits value = true := by
  let body : Pattern := .many 0 none (.one .all)
  have anchored : anything.admits value = body.whole.matchesIn value := rfl
  have proper : body.Proper := ⟨by simp, trivial⟩
  rw [anchored, Regex.matches_whole_iff body proper, Regex.spans_many_one_iff]
  exact ⟨value.toList, Nat.zero_le _, fun c _ => all_contains c, (Regex.stands_whole value.toList _).mpr rfl⟩

-- The anchor at the end stands behind the repetition rather than behind both parts, which makes no difference.
theorem many_components_admits_iff (value : String) :
    manyComponents.admits value = true ↔ ∀ piece ∈ Text.pieces value, piece ≠ "" := by
  let text := value.toList.toArray
  have searched : manyComponents.admits value = manyComponents.pattern.matchesAmong text := rfl
  have proper : manyComponents.pattern.Proper := ⟨trivial, slash_free_proper, more_components_proper, trivial⟩
  have regrouped (i j : Nat) : Spans text manyComponents.pattern i j ↔
      Spans text (Pattern.whole (.cat slashFree moreComponents)) i j := by
    constructor
    · intro ⟨start, atStart, middle, first, stop, rest, atStop⟩
      exact ⟨start, atStart, stop, ⟨middle, first, rest⟩, atStop⟩
    · intro ⟨start, atStart, stop, ⟨middle, first, rest⟩, atStop⟩
      exact ⟨start, atStart, middle, first, stop, rest, atStop⟩
  have pieces : (∀ piece ∈ value.toList.splitOn '/', piece ≠ []) ↔ ∀ piece ∈ Text.pieces value, piece ≠ "" := by
    simp [Text.pieces]
  rw [searched, Regex.matches_among_iff text _ proper]
  simp only [regrouped]
  rw [Regex.spans_whole_iff text, ← pieces, ← components_iff_pieces, ← spans_components_iff]
  exact Iff.rfl

theorem read_expression (source : String) (pattern : Pattern)
    (read : (Tree.ofText source.toList >>= fun tree => tree.pattern {}) = .ok (pattern, {})) : Expression source pattern := by
  obtain ⟨tree, known, meant⟩ := (Regex.bind_ok _ _ _).mp read
  exact ⟨tree, {}, known, meant⟩

-- The source of a derived requirement is read as its pattern, with a group around what is repeated.
theorem one_component_expression : Expression oneComponent.source oneComponent.pattern :=
  read_expression _ _ (by decide +kernel)

theorem many_components_expression :
    Expression manyComponents.source (.cat (.look .textStart) (.cat slashFree
      (.cat (.many 0 none (.group false (.cat (.one (.single '/')) slashFree))) (.look .textStop)))) :=
  read_expression _ _ (by decide +kernel)

theorem anything_expression : Expression anything.source (.whole (.group false (.many 0 none (.one .all)))) :=
  read_expression _ _ (by decide +kernel)

end Requirement

-- Read as any other expression, the source of a derived requirement matches in the values that the requirement admits.
theorem derived_source (kind : PlaceholderKind) (name : String) :
    ∃ pattern, Regex.Expression (Template.derivedRequirement kind name).source pattern ∧
      ∀ value, pattern.matchesIn value = (Template.derivedRequirement kind name).admits value := by
  cases kind with
  | glob => exact ⟨_, Requirement.anything_expression, fun _ => rfl⟩
  | dynamic =>
      by_cases controller : name = "controller"
      · rw [controller]
        exact ⟨_, Requirement.many_components_expression, fun _ => rfl⟩
      · rw [Template.derivedRequirement, if_neg controller]
        exact ⟨_, Requirement.one_component_expression, fun _ => rfl⟩

end PathTemplates
