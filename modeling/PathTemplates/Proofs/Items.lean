import PathTemplates.Proofs.Brackets
import PathTemplates.Regex.Reader

set_option autoImplicit false

/-! Reading an item, or the repetition of one, in front of a closing parenthesis. -/

namespace PathTemplates.Regex

theorem blanks_closing (text : List Char) : (text ++ closing).dropWhile isBlank = text.dropWhile isBlank ++ closing := by
  have stops : closing.dropWhile isBlank = closing := by decide
  rw [List.dropWhile_append, stops]
  split
  · rename_i none
    rw [List.isEmpty_iff.mp none, List.nil_append]
  · rfl

theorem read_number_ok (spaced : Bool) (text rest : List Char) (number : Option Nat) :
    readNumber spaced text = .ok (number, rest) ↔
      ∃ digits left, gatherAll spaced Char.isDigit (text.dropWhile isBlank) = (digits, left) ∧ numberOf digits = .ok number ∧
        rest = left.dropWhile isBlank := by
  unfold readNumber
  rw [bind_ok]
  constructor
  · intro ⟨value, known, same⟩
    cases same
    exact ⟨_, _, rfl, known, rfl⟩
  · intro ⟨digits, left, taken, known, same⟩
    rw [taken, same]
    exact ⟨number, known, rfl⟩

theorem read_number_cuts (spaced : Bool) : Cuts 0 Never (readNumber spaced) where
  suffix := by
    intro text number rest read
    obtain ⟨digits, left, taken, _, same⟩ := (read_number_ok _ _ _ _).mp read
    rw [same]
    exact (List.dropWhile_suffix _).trans ((gather_all_suffix _ _ _ _ _ taken).trans (List.dropWhile_suffix _))
  splits := by
    intro text number out read room
    obtain ⟨digits, left, taken, known, same⟩ := (read_number_ok _ _ _ _).mp read
    have enough := (List.dropWhile_suffix (l := left) isBlank).length_le
    rw [blanks_closing] at taken
    obtain ⟨rest, alone, rfl⟩ := gather_all_closing _ _ _ _ _ taken (by rw [same] at room; omega)
    rw [blanks_closing] at same
    exact .inl ⟨_, (read_number_ok _ _ _ _).mpr ⟨digits, rest, alone, known, rfl⟩, same⟩

theorem read_most_cuts (spaced : Bool) (least : Nat) : Cuts 0 Never (readMost spaced least) where
  suffix := by
    intro text count rest read
    unfold readMost at read
    split at read
    · rename_i behind found
      cases read
      exact (List.suffix_cons '}' rest).trans (skip_cons_suffix spaced text rest '}' found)
    · obtain ⟨⟨number, left⟩, first, later⟩ := (bind_ok _ _ _).mp read
      have inside := ((read_number_cuts spaced).suffix _ number left first).trans (skip_suffix spaced text)
      split at later
      · rename_i most behind same
        cases same
        split at later
        · cases later
          exact (List.suffix_cons '}' rest).trans inside
        · cases later
      · cases later
  splits := by
    intro text count out read left
    unfold readMost at read
    split at read
    · rename_i behind found
      obtain ⟨rest, here, rfl⟩ := skip_closing_cons spaced text behind '}' (by decide) found
      cases read
      refine .inl ⟨rest, ?_, rfl⟩
      rw [readMost, here]
      rfl
    · rename_i noBrace
      obtain ⟨⟨number, behind⟩, first, later⟩ := (bind_ok _ _ _).mp read
      split at later
      · rename_i most after same
        cases same
        split at later
        · rename_i ordered
          cases later
          have number := cuts_skip spaced 0 Never _ (read_number_cuts spaced)
          obtain ⟨whole, alone, split⟩ := number.alone text _ _ first (Nat.le_succ_of_le left)
          obtain ⟨rest, rfl, rfl⟩ := cons_closing_other '}' out whole (by decide) split
          refine .inl ⟨rest, ?_, rfl⟩
          unfold readMost
          split
          · rename_i final brace
            exact absurd (skip_front_closing spaced text final '}' brace) (noBrace (final ++ closing))
          · refine (bind_ok _ _ _).mpr ⟨_, alone, ?_⟩
            exact if_pos ordered
        · cases later
      · cases later

theorem read_count_cuts (spaced : Bool) : Cuts 0 Never (readCount spaced) where
  suffix := by
    intro text count rest read
    obtain ⟨⟨number, left⟩, first, later⟩ := (bind_ok _ _ _).mp read
    have inside := ((read_number_cuts spaced).suffix _ number left first).trans (skip_suffix spaced text)
    split at later
    · rename_i same
      cases same
      cases later
      exact (List.suffix_cons '}' rest).trans inside
    · rename_i least behind same
      cases same
      exact ((read_most_cuts spaced least).suffix behind count rest later).trans ((List.suffix_cons ',' behind).trans inside)
    · cases later
  splits := by
    intro text count out read room
    obtain ⟨⟨number, left⟩, first, later⟩ := (bind_ok _ _ _).mp read
    have number := cuts_skip spaced 0 Never _ (read_number_cuts spaced)
    split at later
    · rename_i least behind same
      cases same
      cases later
      obtain ⟨whole, alone, split⟩ := number.alone text _ _ first (Nat.le_succ_of_le room)
      obtain ⟨rest, rfl, rfl⟩ := cons_closing_other '}' out whole (by decide) split
      exact .inl ⟨rest, (bind_ok _ _ _).mpr ⟨_, alone, rfl⟩, rfl⟩
    · rename_i least behind same
      cases same
      have bound := ((read_most_cuts spaced least).suffix behind count out later).length_le
      obtain ⟨whole, alone, split⟩ := number.alone text _ _ first (by dsimp only [List.length_cons]; omega)
      obtain ⟨rest, rfl, rfl⟩ := cons_closing_other ',' behind whole (by decide) split
      obtain ⟨final, aloneMost, split⟩ := (read_most_cuts spaced least).alone rest count out later room
      exact .inl ⟨final, (bind_ok _ _ _).mpr ⟨_, alone, aloneMost⟩, split⟩
    · cases later

theorem read_lazy_closing (text : List Char) :
    readLazy (text ++ closing) = ((readLazy text).1, (readLazy text).2 ++ closing) := by
  cases text with
  | nil => rfl
  | cons c rest =>
      by_cases mark : c = '?'
      · rw [mark]
        rfl
      · have other (more : List Char) : readLazy (c :: more) = (false, c :: more) := by
          rw [readLazy]
          intro rest same
          exact mark (List.cons.inj same).1
        rw [List.cons_append, other, other]
        rfl

theorem read_lazy_suffix (text : List Char) : (readLazy text).2 <:+ text := by
  unfold readLazy
  split
  · exact List.suffix_cons _ _
  · exact List.suffix_refl _

theorem repeat_last_cuts (least : Nat) (most : Option Nat) (items : List Tree) : Cuts 0 Never (repeatLast least most items) where
  suffix := by
    intro text result rest read
    unfold repeatLast at read
    split at read
    · cases read
    · cases read
    · cases read
    · cases read
      exact read_lazy_suffix text
  splits := by
    intro text result out read _
    unfold repeatLast at read ⊢
    split at read
    · cases read
    · cases read
    · cases read
    · rw [read_lazy_closing] at read
      cases read
      exact .inl ⟨(readLazy text).2, rfl, rfl⟩

theorem read_repetition_cuts (spaced : Bool) (items : List Tree) :
    Cuts 0 Never fun text =>
      readCount spaced text >>= fun found => repeatLast found.1.1 found.1.2 items (skip spaced found.2) :=
  cuts_bind 0 Never (readCount spaced) (fun count text => repeatLast count.1 count.2 items (skip spaced text))
    (read_count_cuts spaced) (fun count => cuts_skip spaced 0 Never _ (repeat_last_cuts count.1 count.2 items))
    fun _ _ _ never => never.elim

-- What the first character of an item reads behind it.
theorem read_item_cuts (spaced : Bool) (items : List Tree) (c : Char) :
    Cuts 0 (fun _ out => BraceLeft spaced out) (readItem spaced items c) where
  suffix := by
    intro text result rest read
    unfold readItem at read
    split at read
    · obtain ⟨⟨negated, opening, first⟩, opened, nested⟩ := (bind_ok _ _ _).mp read
      obtain ⟨⟨body, second⟩, within, later⟩ := (bind_ok _ _ _).mp nested
      cases later
      have start := open_class_suffix spaced negated text first opening opened
      exact ((List.suffix_cons ']' rest).trans (read_class_suffix _ _ _ _ _ _ _ within)).trans start
    · exact (repeat_last_cuts _ _ items).suffix text result rest read
    · exact (repeat_last_cuts _ _ items).suffix text result rest read
    · exact (repeat_last_cuts _ _ items).suffix text result rest read
    · exact (read_repetition_cuts spaced items).suffix text result rest read
    · obtain ⟨⟨item, left⟩, escape, later⟩ := (bind_ok _ _ _).mp read
      cases later
      exact (read_escape_cuts spaced).suffix text item rest escape
    all_goals
      cases read
      exact List.suffix_refl _
  splits := by
    intro text result out read room
    unfold readItem at read ⊢
    split at read
    · obtain ⟨⟨negated, opening, first⟩, opened, nested⟩ := (bind_ok _ _ _).mp read
      obtain ⟨⟨body, second⟩, within, later⟩ := (bind_ok _ _ _).mp nested
      cases later
      have stop := (read_class_suffix _ _ _ _ _ _ _ within).length_le
      rw [List.length_cons] at stop
      obtain ⟨start, aloneOpened, rfl⟩ := open_class_closing spaced negated text first opening opened (by omega)
      obtain ⟨rest, alone, split⟩ := read_class_closing spaced _ start.length.succ none opening start out body
        (Nat.lt_succ_self _) within room
      exact .inl ⟨rest, (bind_ok _ _ _).mpr ⟨_, aloneOpened, (bind_ok _ _ _).mpr ⟨_, alone, rfl⟩⟩, split⟩
    · exact .inl ((repeat_last_cuts _ _ items).alone text result out read room)
    · exact .inl ((repeat_last_cuts _ _ items).alone text result out read room)
    · exact .inl ((repeat_last_cuts _ _ items).alone text result out read room)
    · exact .inl ((read_repetition_cuts spaced items).alone text result out read room)
    · obtain ⟨⟨item, left⟩, escape, later⟩ := (bind_ok _ _ _).mp read
      cases later
      rcases (read_escape_cuts spaced).splits text item out escape room with ⟨rest, alone, split⟩ | ⟨_, brace⟩
      · exact .inl ⟨rest, (bind_ok _ _ _).mpr ⟨_, alone, rfl⟩, split⟩
      · exact .inr brace
    all_goals
      cases read
      exact .inl ⟨text, rfl, rfl⟩

end PathTemplates.Regex
