import Mathlib
import PathTemplates.Regex.Match

set_option autoImplicit false

/-!
The matcher reaches a place if and only if the pattern spans the text up to it. So a pattern between the start and the stop of a
text matches in a text if and only if it spans the whole of it.
-/

namespace PathTemplates.Regex

-- A pattern none of whose repetitions has a least count above its greatest.
def Pattern.Proper : Pattern → Prop
  | .empty | .look _ | .one _ _ => True
  | .group _ body => body.Proper
  | .cat first rest => first.Proper ∧ rest.Proper
  | .alt left right => left.Proper ∧ right.Proper
  | .many least most body _ => (∀ bound ∈ most, least ≤ bound) ∧ body.Proper

section Merging

variable (goal : Nat)

theorem mem_merge_place (a : Nat) (below : List Nat → List Nat) (added : Prop)
    (told : ∀ bs, goal ∈ below bs ↔ added ∨ goal ∈ bs) (bs : List Nat) :
    goal ∈ mergePlace a below bs ↔ (goal = a ∨ added) ∨ goal ∈ bs := by
  induction bs with
  | nil => simp [mergePlace, told]
  | cons b bs ih =>
      rcases Nat.lt_trichotomy b a with less | same | more
      · simp only [mergePlace, if_pos less, List.mem_cons, told]
        tauto
      · simp only [mergePlace, same, Nat.lt_irrefl, if_false, List.mem_cons, told]
        tauto
      · simp only [mergePlace, if_neg (Nat.lt_asymm more), if_pos more, List.mem_cons, ih]
        tauto

theorem mem_merge_places (as bs : List Nat) : goal ∈ mergePlaces as bs ↔ goal ∈ as ∨ goal ∈ bs := by
  induction as generalizing bs with
  | nil => simp [mergePlaces]
  | cons a as ih => exact (mem_merge_place goal a _ (goal ∈ as) ih bs).trans (by rw [List.mem_cons])

theorem new_place_known (a : Nat) (below : List Nat → List Nat) (added : Prop)
    (told : ∀ bs, goal ∈ below bs → added) (bs : List Nat) (member : goal ∈ newPlace a below bs) : goal = a ∨ added := by
  induction bs with
  | nil => exact (List.mem_cons.mp member).imp_right (told _)
  | cons b bs ih =>
      rcases Nat.lt_trichotomy b a with less | same | more
      · rw [newPlace, if_pos less] at member
        exact (List.mem_cons.mp member).imp_right (told _)
      · rw [newPlace, same, if_neg (Nat.lt_irrefl a), if_neg (Nat.lt_irrefl a)] at member
        exact .inr (told _ member)
      · rw [newPlace, if_neg (Nat.lt_asymm more), if_pos more] at member
        exact ih member

theorem new_places_known (as bs : List Nat) (member : goal ∈ newPlaces as bs) : goal ∈ as := by
  induction as generalizing bs with
  | nil => cases member
  | cons a as ih => exact List.mem_cons.mpr (new_place_known goal a _ (goal ∈ as) ih bs member)

theorem new_place_found (a : Nat) (below : List Nat → List Nat) (added : Prop)
    (told : ∀ bs, added → goal ∈ below bs ∨ goal ∈ bs) (bs : List Nat) (wanted : goal = a ∨ added) :
    goal ∈ newPlace a below bs ∨ goal ∈ bs := by
  induction bs with
  | nil => exact .inl (List.mem_cons.mpr (wanted.imp_right fun later => (told [] later).resolve_right List.not_mem_nil))
  | cons b bs ih =>
      rcases Nat.lt_trichotomy b a with less | same | more
      · rw [newPlace, if_pos less]
        rcases wanted with here | later
        · exact .inl (List.mem_cons.mpr (.inl here))
        · exact (told (b :: bs) later).imp_left (List.mem_cons_of_mem a)
      · rw [newPlace, same, if_neg (Nat.lt_irrefl a), if_neg (Nat.lt_irrefl a)]
        rcases wanted with here | later
        · exact .inr (List.mem_cons.mpr (.inl here))
        · exact (told bs later).imp_right (List.mem_cons_of_mem a)
      · rw [newPlace, if_neg (Nat.lt_asymm more), if_pos more]
        exact ih.imp_right (List.mem_cons_of_mem b)

theorem new_places_found (as bs : List Nat) (member : goal ∈ as) : goal ∈ newPlaces as bs ∨ goal ∈ bs := by
  induction as generalizing bs with
  | nil => cases member
  | cons a as ih => exact new_place_found goal a _ (goal ∈ as) ih bs (List.mem_cons.mp member)

end Merging

theorem chain_add (R : Nat → Nat → Prop) (m n i k : Nat) :
    Chain R (m + n) i k ↔ ∃ j, Chain R m i j ∧ Chain R n j k := by
  induction m generalizing i with
  | zero => simp [Chain]
  | succ m ih =>
      rw [Nat.succ_add]
      constructor
      · intro ⟨next, step, rest⟩
        obtain ⟨j, first, last⟩ := (ih next).mp rest
        exact ⟨j, ⟨next, step, first⟩, last⟩
      · intro ⟨j, ⟨next, step, first⟩, last⟩
        exact ⟨next, step, (ih next).mpr ⟨j, first, last⟩⟩

-- Steps of a relation within a text: they never lead back and never beyond the end.
structure Advances (size : Nat) (R : Nat → Nat → Prop) : Prop where
  forth : ∀ i j, R i j → i ≤ j
  within : ∀ i j, R i j → i ≤ size → j ≤ size

theorem chain_advances (size : Nat) (R : Nat → Nat → Prop) (advances : Advances size R) (n : Nat) :
    Advances size (Chain R n) := by
  induction n with
  | zero => exact ⟨fun _ _ same => Nat.le_of_eq same, fun _ _ same bound => same ▸ bound⟩
  | succ n ih =>
      constructor
      · intro i k ⟨j, step, rest⟩
        exact Nat.le_trans (advances.forth i j step) (ih.forth j k rest)
      · intro i k ⟨j, step, rest⟩ bound
        exact ih.within j k rest (advances.within i j step bound)

-- Steps that stay where they are can be left out, so no place takes more steps than it is ahead.
theorem chain_shortened (size : Nat) (R : Nat → Nat → Prop) (advances : Advances size R) (n i k : Nat)
    (chain : Chain R n i k) : ∃ m ≤ k - i, Chain R m i k := by
  induction n generalizing i with
  | zero => exact ⟨0, Nat.zero_le _, chain⟩
  | succ n ih =>
      obtain ⟨j, step, rest⟩ := chain
      have ahead := advances.forth i j step
      have further := (chain_advances size R advances n).forth j k rest
      obtain ⟨m, few, short⟩ := ih j rest
      by_cases stays : i = j
      · subst stays
        exact ⟨m, few, short⟩
      · exact ⟨m + 1, by omega, j, step, short⟩

theorem spans_advances (text : Array Char) (pattern : Pattern) : Advances text.size (Spans text pattern) := by
  induction pattern with
  | empty => exact ⟨fun _ _ same => Nat.le_of_eq same, fun _ _ same bound => same ▸ bound⟩
  | look demand => exact ⟨fun _ _ spans => Nat.le_of_eq spans.1, fun _ _ spans bound => spans.1 ▸ bound⟩
  | one set unicode =>
      constructor
      · intro i j ⟨next, _⟩
        omega
      · intro i j ⟨next, c, found, _⟩ _
        obtain ⟨inside, _⟩ := Array.getElem?_eq_some_iff.mp found
        omega
  | group captures body ih => exact ⟨ih.forth, ih.within⟩
  | cat first rest ihFirst ihRest =>
      constructor
      · intro i k ⟨j, head, tail⟩
        exact Nat.le_trans (ihFirst.forth i j head) (ihRest.forth j k tail)
      · intro i k ⟨j, head, tail⟩ bound
        exact ihRest.within j k tail (ihFirst.within i j head bound)
  | alt left right ihLeft ihRight =>
      constructor
      · intro i j either
        exact either.elim (ihLeft.forth i j) (ihRight.forth i j)
      · intro i j either bound
        exact either.elim (ihLeft.within i j · bound) (ihRight.within i j · bound)
  | many least most body greedy ih =>
      constructor
      · intro i j ⟨n, _, _, chain⟩
        exact (chain_advances text.size _ ih n).forth i j chain
      · intro i j ⟨n, _, _, chain⟩ bound
        exact (chain_advances text.size _ ih n).within i j chain bound

def Leads (size : Nat) (step : List Nat → List Nat) (R : Nat → Nat → Prop) : Prop :=
  ∀ places, (∀ i ∈ places, i ≤ size) → ∀ j, j ∈ step places ↔ ∃ i ∈ places, R i j

section Steps

variable (size : Nat) (step : List Nat → List Nat) (R : Nat → Nat → Prop) (leads : Leads size step R)
  (advances : Advances size R)

theorem step_times_eq (n : Nat) (places : List Nat) : stepTimes step n places = step^[n] places := by
  induction n generalizing places with
  | zero => rfl
  | succ n ih =>
      rw [Function.iterate_succ_apply, stepTimes]
      by_cases fixed : step places = places
      · rw [if_pos fixed, fixed, Function.iterate_fixed fixed]
      · rw [if_neg fixed, ih]

include leads advances

theorem step_within (places : List Nat) (bounded : ∀ i ∈ places, i ≤ size) : ∀ j ∈ step places, j ≤ size := by
  intro j member
  obtain ⟨i, inside, step⟩ := (leads places bounded j).mp member
  exact advances.within i j step (bounded i inside)

theorem mem_step_times (n : Nat) (places : List Nat) (bounded : ∀ i ∈ places, i ≤ size) (k : Nat) :
    k ∈ stepTimes step n places ↔ ∃ i ∈ places, Chain R n i k := by
  rw [step_times_eq]
  induction n generalizing places with
  | zero => simp [Chain]
  | succ n ih =>
      rw [Function.iterate_succ_apply, ih (step places) (step_within size step R leads advances places bounded)]
      constructor
      · intro ⟨j, member, rest⟩
        obtain ⟨i, inside, first⟩ := (leads places bounded j).mp member
        exact ⟨i, inside, j, first, rest⟩
      · intro ⟨i, inside, j, first, rest⟩
        exact ⟨j, (leads places bounded j).mpr ⟨i, inside, first⟩, rest⟩

theorem step_up_to_sound (n : Nat) (newest reached : List Nat) (bounded : ∀ i ∈ newest, i ≤ size) (k : Nat)
    (member : k ∈ stepUpTo step n newest reached) : k ∈ reached ∨ ∃ i ∈ newest, ∃ m ≤ n, Chain R m i k := by
  induction n generalizing newest reached with
  | zero => exact .inl member
  | succ n ih =>
      rw [stepUpTo] at member
      have known (j : Nat) (fresh : j ∈ newPlaces (step newest) reached) : ∃ i ∈ newest, R i j :=
        (leads newest bounded j).mp (new_places_known j _ _ fresh)
      cases found : newPlaces (step newest) reached with
      | nil =>
          rw [found] at member
          exact .inl member
      | cons first rest =>
          rw [found] at member
          dsimp only at member
          rw [← found] at member
          have stays : ∀ j ∈ newPlaces (step newest) reached, j ≤ size := by
            intro j fresh
            obtain ⟨i, inside, step⟩ := known j fresh
            exact advances.within i j step (bounded i inside)
          rcases ih _ _ stays member with merged | ⟨j, fresh, m, few, chain⟩
          · rcases (mem_merge_places k _ _).mp merged with fresh | old
            · obtain ⟨i, inside, step⟩ := known k fresh
              exact .inr ⟨i, inside, 1, by omega, k, step, rfl⟩
            · exact .inl old
          · obtain ⟨i, inside, step⟩ := known j fresh
            exact .inr ⟨i, inside, m + 1, by omega, j, step, chain⟩

-- The newest places are those whose steps may lead to places that are not yet reached.
theorem step_up_to_complete (n : Nat) (newest reached : List Nat) (bounded : ∀ i ∈ newest, i ≤ size)
    (closed : ∀ i ∈ reached, i ∈ newest ∨ ∀ j, R i j → j ∈ reached) (i k m : Nat) (start : i ∈ reached) (few : m ≤ n)
    (chain : Chain R m i k) : k ∈ stepUpTo step n newest reached := by
  induction n generalizing newest reached i m with
  | zero =>
      have none : m = 0 := by omega
      subst none
      exact chain ▸ start
  | succ n ih =>
      have next (i j : Nat) (inside : i ∈ reached) (leadsTo : R i j) :
          j ∈ newPlaces (step newest) reached ∨ j ∈ reached := by
        rcases closed i inside with new | done
        · exact new_places_found j _ _ ((leads newest bounded j).mpr ⟨i, new, leadsTo⟩)
        · exact .inr (done j leadsTo)
      rw [stepUpTo]
      cases found : newPlaces (step newest) reached with
      | nil =>
          dsimp only
          -- Nothing new is reached, so no number of steps leads out of what is reached.
          have stays (m i : Nat) (inside : i ∈ reached) (chain : Chain R m i k) : k ∈ reached := by
            induction m generalizing i with
            | zero => exact chain ▸ inside
            | succ m again =>
                obtain ⟨j, first, rest⟩ := chain
                have reachedNext := next i j inside first
                rw [found] at reachedNext
                exact again j (reachedNext.resolve_left List.not_mem_nil) rest
          exact stays m i start chain
      | cons first rest =>
          dsimp only
          rw [← found]
          have freshBounded : ∀ j ∈ newPlaces (step newest) reached, j ≤ size := by
            intro j fresh
            exact step_within size step R leads advances newest bounded j (new_places_known j _ _ fresh)
          have closedNext : ∀ i ∈ mergePlaces (newPlaces (step newest) reached) reached,
              i ∈ newPlaces (step newest) reached ∨
                ∀ j, R i j → j ∈ mergePlaces (newPlaces (step newest) reached) reached := by
            intro i member
            refine ((mem_merge_places i _ _).mp member).imp_right ?_
            intro old j leadsTo
            exact (mem_merge_places j _ _).mpr (next i j old leadsTo)
          cases m with
          | zero => exact ih _ _ freshBounded closedNext i 0 ((mem_merge_places i _ _).mpr (.inr start)) (Nat.zero_le n) chain
          | succ m =>
              obtain ⟨j, leadsTo, rest⟩ := chain
              exact ih _ _ freshBounded closedNext j m ((mem_merge_places j _ _).mpr (next i j start leadsTo)) (by omega) rest

theorem mem_step_up_to (n : Nat) (places : List Nat) (bounded : ∀ i ∈ places, i ≤ size) (k : Nat) :
    k ∈ stepUpTo step n places places ↔ ∃ i ∈ places, ∃ m ≤ n, Chain R m i k := by
  constructor
  · intro member
    rcases step_up_to_sound size step R leads advances n places places bounded k member with start | found
    · exact ⟨k, start, 0, Nat.zero_le n, rfl⟩
    · exact found
  · intro ⟨i, start, m, few, chain⟩
    exact step_up_to_complete size step R leads advances n places places bounded (fun _ inside => .inl inside) i k m start few
      chain

end Steps

-- The induction is on the pattern; the sets of places grow from one part to the next, so it is for all sets.
theorem mem_reach (text : Array Char) (pattern : Pattern) (proper : pattern.Proper) :
    Leads text.size (pattern.reach text) (Spans text pattern) := by
  induction pattern with
  | empty =>
      intro places _ j
      simp [Pattern.reach, Spans]
  | look demand =>
      intro places _ j
      simp only [Pattern.reach, Spans, List.mem_filter]
      constructor
      · intro ⟨member, holds⟩
        exact ⟨j, member, rfl, holds⟩
      · intro ⟨i, member, same, holds⟩
        exact same ▸ ⟨member, holds⟩
  | one set unicode =>
      intro places _ j
      simp only [Pattern.reach, Spans, List.mem_map, List.mem_filter, Option.any_eq_true]
      constructor
      · intro ⟨i, ⟨member, found⟩, next⟩
        exact ⟨i, member, next.symm, found⟩
      · intro ⟨i, member, next, found⟩
        exact ⟨i, ⟨member, found⟩, next.symm⟩
  | group captures body ih => exact ih proper
  | cat first rest ihFirst ihRest =>
      intro places bounded k
      have within := step_within text.size _ _ (ihFirst proper.1) (spans_advances text first) places bounded
      simp only [Pattern.reach, Spans, ihRest proper.2 _ within k, ihFirst proper.1 places bounded]
      constructor
      · intro ⟨j, ⟨i, member, head⟩, tail⟩
        exact ⟨i, member, j, head, tail⟩
      · intro ⟨i, member, j, head, tail⟩
        exact ⟨j, ⟨i, member, head⟩, tail⟩
  | alt left right ihLeft ihRight =>
      intro places bounded j
      simp only [Pattern.reach, Spans, mem_merge_places, ihLeft proper.1 places bounded j, ihRight proper.2 places bounded j]
      constructor
      · intro either
        rcases either with ⟨i, member, spans⟩ | ⟨i, member, spans⟩
        · exact ⟨i, member, .inl spans⟩
        · exact ⟨i, member, .inr spans⟩
      · intro ⟨i, member, either⟩
        exact either.imp (fun spans => ⟨i, member, spans⟩) fun spans => ⟨i, member, spans⟩
  | many least most body greedy ih =>
      intro places bounded k
      have leads := ih proper.2
      have advances := spans_advances text body
      have start := mem_step_times text.size _ _ leads advances least places bounded
      have within : ∀ j ∈ stepTimes (body.reach text) least places, j ≤ text.size := by
        intro j member
        obtain ⟨i, inside, chain⟩ := (start j).mp member
        exact (chain_advances text.size _ advances least).within i j chain (bounded i inside)
      simp only [Pattern.reach, Spans, mem_step_up_to text.size _ _ leads advances _ _ within k, start]
      constructor
      · intro ⟨j, ⟨i, member, head⟩, m, few, tail⟩
        refine ⟨i, member, least + m, by omega, ?_, (chain_add _ least m i k).mpr ⟨j, head, tail⟩⟩
        intro bound limited
        have room := proper.1 bound limited
        rw [Option.mem_def.mp limited] at few
        dsimp only at few
        omega
      · intro ⟨i, member, n, enough, limited, chain⟩
        obtain ⟨extra, rfl⟩ := Nat.exists_eq_add_of_le enough
        obtain ⟨j, head, tail⟩ := (chain_add _ least extra i k).mp chain
        have inside : j ≤ text.size := (chain_advances text.size _ advances least).within i j head (bounded i member)
        cases most with
        | some bound =>
            have few := limited bound rfl
            exact ⟨j, ⟨i, member, head⟩, extra, by dsimp only; omega, tail⟩
        | none =>
            obtain ⟨m, few, short⟩ := chain_shortened text.size _ advances extra j k tail
            have stop : k ≤ text.size := (chain_advances text.size _ advances extra).within j k tail inside
            exact ⟨j, ⟨i, member, head⟩, m, by dsimp only; omega, short⟩

theorem matches_among_iff (text : Array Char) (pattern : Pattern) (proper : pattern.Proper) :
    pattern.matchesAmong text = true ↔ ∃ i j, i ≤ text.size ∧ Spans text pattern i j := by
  have leads := mem_reach text pattern proper (List.range (text.size + 1)).reverse fun i member => by
    have bound := List.mem_range.mp (List.mem_reverse.mp member)
    omega
  rw [Pattern.matchesAmong, Bool.not_eq_true', List.isEmpty_eq_false_iff_exists_mem]
  simp only [leads, List.mem_reverse, List.mem_range, Nat.lt_succ_iff]
  constructor
  · intro ⟨j, i, bound, spans⟩
    exact ⟨i, j, bound, spans⟩
  · intro ⟨i, j, bound, spans⟩
    exact ⟨j, i, bound, spans⟩

theorem text_start_iff (text : Array Char) (i : Nat) (inside : i ≤ text.size) :
    Look.textStart.holds (before? text i) text[i]? = true ↔ i = 0 := by
  cases i with
  | zero => simp [Look.holds, before?]
  | succ i =>
      have before : i < text.size := inside
      simp [Look.holds, before?, before]

theorem text_stop_iff (text : Array Char) (i : Nat) (inside : i ≤ text.size) :
    Look.textStop.holds (before? text i) text[i]? = true ↔ i = text.size := by
  simp only [Look.holds, Option.isNone_iff_eq_none, Array.getElem?_eq_none_iff]
  omega

theorem spans_whole_iff (text : Array Char) (body : Pattern) :
    (∃ i j, i ≤ text.size ∧ Spans text body.whole i j) ↔ Spans text body 0 text.size := by
  constructor
  · intro ⟨i, j, inside, place, ⟨same, atStart⟩, stop, spans, equal, atStop⟩
    subst same
    have within := (spans_advances text body).within i stop spans inside
    rw [(text_start_iff text i inside).mp atStart, (text_stop_iff text stop within).mp atStop] at spans
    exact spans
  · intro spans
    have start := (text_start_iff text 0 (Nat.zero_le _)).mpr rfl
    have stop := (text_stop_iff text text.size (Nat.le_refl _)).mpr rfl
    exact ⟨0, text.size, Nat.zero_le _, 0, ⟨rfl, start⟩, text.size, spans, rfl, stop⟩

-- No empty text between the bytes of a character is the start of the text, so nothing hides a match.
theorem matches_whole_iff (body : Pattern) (proper : body.Proper) (value : String) :
    body.whole.matchesIn value = true ↔ Spans value.toList.toArray body 0 value.toList.length := by
  have bounded : body.whole.Proper := ⟨trivial, proper, trivial⟩
  have searched : body.whole.matchesIn value = body.whole.matchesAmong value.toList.toArray := rfl
  rw [searched, matches_among_iff _ _ bounded, spans_whole_iff]
  rfl

end PathTemplates.Regex
