import Mathlib
import PathTemplates.Regex.Blank
import PathTemplates.Regex.Tree

set_option autoImplicit false

/-!
Reading in front of a closing parenthesis. A reader takes from the front of a text and leaves the rest; where it leaves the
closing of a group behind the text, it reads the text as it would without the closing.
-/

namespace PathTemplates.Regex

-- What stands behind a pattern that is anchored.
def closing : List Char := [')', '$']

theorem bind_ok {α β : Type} (first : Except Fault α) (next : α → Except Fault β) (result : β) :
    (first >>= next) = .ok result ↔ ∃ value, first = .ok value ∧ next value = .ok result := by
  cases first with
  | error fault =>
      constructor
      · intro read
        cases read
      · intro ⟨_, read, _⟩
        cases read
  | ok value =>
      constructor
      · intro read
        exact ⟨value, rfl, read⟩
      · intro ⟨_, same, read⟩
        cases same
        exact read

theorem drop_blanks_suffix (inComment : Bool) (text : List Char) : dropBlanks inComment text <:+ text := by
  induction text generalizing inComment with
  | nil => exact List.suffix_refl _
  | cons c rest ih =>
      have later (state : Bool) : dropBlanks state rest <:+ c :: rest := (ih state).trans (List.suffix_cons c rest)
      rw [dropBlanks]
      split
      · exact later _
      · split
        · exact later _
        · split
          · exact later _
          · exact List.suffix_refl _

-- Blanks end where they end without the text behind, or reach it in a comment or not.
theorem drop_blanks_append (inComment : Bool) (text more : List Char) :
    (dropBlanks inComment text = [] ∧ ∃ state, dropBlanks inComment (text ++ more) = dropBlanks state more) ∨
      ∃ c rest, dropBlanks inComment text = c :: rest ∧ dropBlanks inComment (text ++ more) = c :: rest ++ more := by
  induction text generalizing inComment with
  | nil => exact .inl ⟨rfl, inComment, rfl⟩
  | cons c rest ih =>
      rw [List.cons_append, dropBlanks, dropBlanks]
      split
      · exact ih _
      · split
        · exact ih _
        · split
          · exact ih _
          · exact .inr ⟨c, rest, rfl, rfl⟩

theorem skip_suffix (spaced : Bool) (text : List Char) : skip spaced text <:+ text := by
  cases spaced with
  | false => exact List.suffix_refl _
  | true => exact drop_blanks_suffix false text

theorem skip_cons_suffix (spaced : Bool) (text rest : List Char) (c : Char) (found : skip spaced text = c :: rest) :
    c :: rest <:+ text := found ▸ skip_suffix spaced text

theorem skip_cons_length (spaced : Bool) (text rest : List Char) (c : Char) (found : skip spaced text = c :: rest) :
    rest.length < text.length := (skip_cons_suffix spaced text rest c found).length_le

-- Where nothing but blanks stands in front of the closing, an open comment takes it.
theorem skip_closing (spaced : Bool) (text : List Char) :
    skip spaced (text ++ closing) = skip spaced text ++ closing ∨
      skip spaced text = [] ∧ skip spaced (text ++ closing) = [] := by
  cases spaced with
  | false => exact .inl rfl
  | true =>
      rcases drop_blanks_append false text closing with ⟨blank, state, same⟩ | ⟨c, rest, found, same⟩
      · have alone : skip true text = [] := blank
        have whole : skip true (text ++ closing) = dropBlanks state closing := same
        rw [alone, whole]
        cases state with
        | false => exact .inl (by decide)
        | true => exact .inr ⟨rfl, by decide⟩
      · have alone : skip true text = c :: rest := found
        exact .inl (alone ▸ same)

theorem skip_front_closing (spaced : Bool) (text rest : List Char) (c : Char) (found : skip spaced text = c :: rest) :
    skip spaced (text ++ closing) = c :: (rest ++ closing) := by
  rcases skip_closing spaced text with same | ⟨none, _⟩
  · rw [same, found]
    rfl
  · rw [found] at none
    cases none

-- A character other than the parenthesis of the closing stands in the text itself.
theorem cons_closing_other (c : Char) (inner text : List Char) (other : c ≠ ')') (same : c :: inner = text ++ closing) :
    ∃ rest, text = c :: rest ∧ inner = rest ++ closing := by
  cases text with
  | nil => exact absurd (List.cons.inj same).1 other
  | cons d rest =>
      obtain ⟨rfl, left⟩ := List.cons.inj same
      exact ⟨rest, rfl, left⟩

theorem skip_closing_cons (spaced : Bool) (text inner : List Char) (c : Char) (other : c ≠ ')')
    (found : skip spaced (text ++ closing) = c :: inner) :
    ∃ rest, skip spaced text = c :: rest ∧ inner = rest ++ closing := by
  rcases skip_closing spaced text with same | ⟨_, same⟩
  · exact cons_closing_other c inner (skip spaced text) other (found.symm.trans same)
  · rw [same] at found
    cases found

theorem gather_cons (spaced : Bool) (wanted : Char → Bool) (inComment : Bool) (room : Nat) (c : Char) (rest : List Char) :
    gather spaced wanted inComment room (c :: rest) =
      if inComment then gather spaced wanted (c ≠ '\n') room rest
      else
        match room with
        | 0 => ([], c :: rest)
        | room + 1 =>
            if spaced && isBlank c then gather spaced wanted false (room + 1) rest
            else if spaced && c = '#' then gather spaced wanted true (room + 1) rest
            else if wanted c then
              (c :: (gather spaced wanted false room rest).1, (gather spaced wanted false room rest).2)
            else ([], c :: rest) :=
  (gather.eq_def spaced wanted inComment room (c :: rest)).trans rfl

theorem gather_suffix (spaced : Bool) (wanted : Char → Bool) (inComment : Bool) (room : Nat) (text : List Char) :
    (gather spaced wanted inComment room text).2 <:+ text := by
  induction text generalizing inComment room with
  | nil => simp [gather]
  | cons c rest ih =>
      have later (state : Bool) (room : Nat) : (gather spaced wanted state room rest).2 <:+ c :: rest :=
        (ih state room).trans (List.suffix_cons c rest)
      rw [gather_cons]
      split
      · exact later _ _
      · split
        · exact List.suffix_refl _
        · split
          · exact later _ _
          · split
            · exact later _ _
            · split
              · exact later _ _
              · exact List.suffix_refl _

theorem gather_closing (spaced : Bool) (wanted : Char → Bool) (inComment : Bool) (room : Nat) (text : List Char)
    (left : closing.length ≤ (gather spaced wanted inComment room (text ++ closing)).2.length) :
    gather spaced wanted inComment room (text ++ closing) =
      ((gather spaced wanted inComment room text).1, (gather spaced wanted inComment room text).2 ++ closing) := by
  induction text generalizing inComment room with
  | nil =>
      -- What takes the parenthesis leaves no more than one character.
      have beyond (state : Bool) (room : Nat) : ¬ closing.length ≤ (gather spaced wanted state room ['$']).2.length := by
        have bound := (gather_suffix spaced wanted state room ['$']).length_le
        simp only [closing, List.length_cons, List.length_nil] at bound ⊢
        omega
      have noBlank : isBlank ')' = false := by decide
      rw [List.nil_append, closing, gather_cons] at left ⊢
      by_cases comment : inComment = true
      · rw [if_pos comment] at left
        exact absurd left (beyond _ _)
      · rw [if_neg comment] at left ⊢
        cases room with
        | zero => rfl
        | succ room =>
            by_cases takes : wanted ')' = true
            · simp only [noBlank, Bool.and_false, Bool.false_eq_true, if_false, takes, if_true, Char.reduceEq, decide_false] at left
              exact absurd left (beyond _ _)
            · simp [noBlank, takes, gather]
  | cons c rest ih =>
      rw [List.cons_append, gather_cons] at left ⊢
      rw [gather_cons]
      by_cases comment : inComment = true
      · simp only [if_pos comment] at left ⊢
        exact ih _ _ left
      · simp only [if_neg comment] at left ⊢
        cases room with
        | zero => rfl
        | succ room =>
            dsimp only at left ⊢
            by_cases blank : (spaced && isBlank c) = true
            · simp only [if_pos blank] at left ⊢
              exact ih _ _ left
            · simp only [if_neg blank] at left ⊢
              by_cases sign : (spaced && decide (c = '#')) = true
              · simp only [if_pos sign] at left ⊢
                exact ih _ _ left
              · simp only [if_neg sign] at left ⊢
                by_cases takes : wanted c = true
                · simp only [if_pos takes] at left ⊢
                  simp only [ih _ _ left]
                · simp only [if_neg takes]
                  rfl

-- There is room for all characters of a text in its length.
theorem gather_room (spaced : Bool) (wanted : Char → Bool) (inComment : Bool) (room more : Nat) (text : List Char)
    (enough : text.length ≤ room) (also : text.length ≤ more) :
    gather spaced wanted inComment room text = gather spaced wanted inComment more text := by
  induction text generalizing inComment room more with
  | nil => simp only [gather]
  | cons c rest ih =>
      rw [List.length_cons] at enough also
      cases room with
      | zero => omega
      | succ room =>
          cases more with
          | zero => omega
          | succ more =>
              have whole (state : Bool) := ih state (room + 1) (more + 1) (by omega) (by omega)
              have taken := ih false room more (by omega) (by omega)
              rw [gather_cons, gather_cons, whole]
              dsimp only
              rw [whole, whole, taken]

-- A character that more than the closing follows stands in front of it.
theorem cons_closing (c : Char) (out left : List Char) (same : c :: out = left ++ closing)
    (room : closing.length ≤ out.length) : ∃ rest, left = c :: rest ∧ out = rest ++ closing := by
  cases left with
  | nil =>
      obtain ⟨_, rfl⟩ := List.cons.inj same
      exact absurd room (by decide)
  | cons d rest =>
      obtain ⟨rfl, rfl⟩ := List.cons.inj same
      exact ⟨rest, rfl, rfl⟩

theorem skip_closing_room (spaced : Bool) (text inner : List Char) (c : Char) (found : skip spaced (text ++ closing) = c :: inner)
    (left : closing.length ≤ inner.length) : ∃ rest, skip spaced text = c :: rest ∧ inner = rest ++ closing := by
  rcases skip_closing spaced text with same | ⟨_, same⟩
  · obtain ⟨rest, whole, split⟩ := cons_closing c inner (skip spaced text) (found.symm.trans same) left
    exact ⟨rest, whole, split⟩
  · rw [same] at found
    cases found

theorem gather_all_suffix (spaced : Bool) (wanted : Char → Bool) (text taken rest : List Char)
    (read : gatherAll spaced wanted text = (taken, rest)) : rest <:+ text := by
  have left := gather_suffix spaced wanted false text.length text
  rwa [← gatherAll, read] at left

theorem gather_all_closing (spaced : Bool) (wanted : Char → Bool) (text taken out : List Char)
    (read : gatherAll spaced wanted (text ++ closing) = (taken, out)) (left : closing.length ≤ out.length) :
    ∃ rest, gatherAll spaced wanted text = (taken, rest) ∧ out = rest ++ closing := by
  have room : gather spaced wanted false (text ++ closing).length text = gatherAll spaced wanted text :=
    gather_room spaced wanted false _ _ text (by simp) (Nat.le_refl _)
  have split := gather_closing spaced wanted false (text ++ closing).length text (by rw [← gatherAll, read]; exact left)
  rw [room, ← gatherAll, read, Prod.mk.injEq] at split
  exact ⟨(gatherAll spaced wanted text).2, Prod.ext split.1.symm rfl, split.2⟩

theorem gather_all_closing_cons (spaced : Bool) (wanted : Char → Bool) (text taken out : List Char) (c : Char)
    (read : gatherAll spaced wanted (text ++ closing) = (taken, c :: out)) (left : closing.length ≤ out.length) :
    ∃ rest, gatherAll spaced wanted text = (taken, c :: rest) ∧ out = rest ++ closing := by
  obtain ⟨whole, same, split⟩ := gather_all_closing spaced wanted text taken (c :: out) read (Nat.le_succ_of_le left)
  obtain ⟨rest, rfl, rest'⟩ := cons_closing c out whole split left
  exact ⟨rest, same, rest'⟩

-- A mark that is not in the closing is found in the text or not at all.
theorem mark_closing (mark : Char) (outside : mark ∉ closing) (text : List Char) :
    (text.dropWhile (· ≠ mark) = [] ∧ (text ++ closing).dropWhile (· ≠ mark) = []) ∨
      ∃ c rest, text.dropWhile (· ≠ mark) = c :: rest ∧ (text ++ closing).dropWhile (· ≠ mark) = c :: (rest ++ closing) ∧
        (text ++ closing).takeWhile (· ≠ mark) = text.takeWhile (· ≠ mark) := by
  have passed : closing.dropWhile (· ≠ mark) = [] := by
    rw [List.dropWhile_eq_nil_iff]
    intro c member
    simp only [decide_eq_true_eq]
    exact fun same => outside (same ▸ member)
  cases found : text.dropWhile (· ≠ mark) with
  | nil => exact .inl ⟨rfl, by rw [List.dropWhile_append, found, passed]; rfl⟩
  | cons c rest =>
      have shorter : (text.takeWhile (· ≠ mark)).length ≠ text.length := by
        have whole := congrArg List.length (List.takeWhile_append_dropWhile (p := (· ≠ mark)) (l := text))
        rw [List.length_append, found, List.length_cons] at whole
        omega
      refine .inr ⟨c, rest, rfl, ?_, ?_⟩
      · rw [List.dropWhile_append, found]
        rfl
      · rw [List.takeWhile_append, if_neg shorter]

-- A reader that takes from the front of a text. With the closing behind the text it takes the same if it leaves the closing and as
-- many characters more as are to be spared, or else its result is astray.
structure Cuts {α : Type} (spare : Nat) (astray : α → List Char → Prop) (read : List Char → Except Fault (α × List Char)) :
    Prop where
  suffix : ∀ text result rest, read text = .ok (result, rest) → rest <:+ text
  splits : ∀ text result out, read (text ++ closing) = .ok (result, out) → closing.length + spare ≤ out.length →
    (∃ rest, read text = .ok (result, rest) ∧ out = rest ++ closing) ∨ astray result out

-- For readers none of whose results is astray.
def Never {α : Type} (_ : α) (_ : List Char) : Prop := False

theorem Cuts.alone {α : Type} {spare : Nat} {read : List Char → Except Fault (α × List Char)} (cuts : Cuts spare Never read)
    (text : List Char) (result : α) (out : List Char) (done : read (text ++ closing) = .ok (result, out))
    (room : closing.length + spare ≤ out.length) : ∃ rest, read text = .ok (result, rest) ∧ out = rest ++ closing :=
  (cuts.splits text result out done room).resolve_right not_false

-- Readers in a row, where nothing is read behind a result that is astray.
theorem cuts_bind {α β : Type} (spare : Nat) (astray : α → List Char → Prop) (read : List Char → Except Fault (α × List Char))
    (next : α → List Char → Except Fault (β × List Char)) (first : Cuts spare astray read)
    (second : ∀ result, Cuts spare Never (next result))
    (stops : ∀ result out final, astray result out → next result out ≠ .ok final) :
    Cuts spare Never fun text => read text >>= fun found => next found.1 found.2 where
  suffix := by
    intro text result rest done
    obtain ⟨⟨middle, left⟩, before, after⟩ := (bind_ok _ _ _).mp done
    exact ((second middle).suffix left result rest after).trans (first.suffix text middle left before)
  splits := by
    intro text result out done room
    obtain ⟨⟨middle, left⟩, before, after⟩ := (bind_ok _ _ _).mp done
    have more := ((second middle).suffix left result out after).length_le
    rcases first.splits text middle left before (Nat.le_trans room more) with ⟨rest, alone, rfl⟩ | away
    · obtain ⟨final, same, split⟩ := (second middle).alone rest result out after room
      exact .inl ⟨final, (bind_ok _ _ _).mpr ⟨(middle, rest), alone, same⟩, split⟩
    · exact absurd after (stops middle left (result, out) away)

theorem cuts_spare {α : Type} (spare more : Nat) (astray : α → List Char → Prop) (read : List Char → Except Fault (α × List Char))
    (cuts : Cuts spare astray read) (least : spare ≤ more) : Cuts more astray read where
  suffix := cuts.suffix
  splits := by
    intro text result out done room
    exact cuts.splits text result out done (by omega)

theorem cuts_skip {α : Type} (spaced : Bool) (spare : Nat) (astray : α → List Char → Prop)
    (read : List Char → Except Fault (α × List Char)) (cuts : Cuts spare astray read) :
    Cuts spare astray fun text => read (skip spaced text) where
  suffix := by
    intro text result rest done
    exact (cuts.suffix (skip spaced text) result rest done).trans (skip_suffix spaced text)
  splits := by
    intro text result out done room
    rcases skip_closing spaced text with same | ⟨_, none⟩
    · exact cuts.splits (skip spaced text) result out (same ▸ done) room
    · have bound := (cuts.suffix _ result out done).length_le
      rw [none, List.length_nil] at bound
      have length : closing.length = 2 := rfl
      omega

end PathTemplates.Regex
