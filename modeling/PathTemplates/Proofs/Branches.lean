import PathTemplates.Proofs.Items

set_option autoImplicit false

/-! Reading groups and branches in front of a closing parenthesis. -/

namespace PathTemplates.Regex

theorem read_flags_cuts (change : FlagChange) (negated afterHyphen : Bool) : Cuts 0 Never (readFlags change negated afterHyphen) where
  suffix := by
    intro text result rest read
    induction text generalizing change negated afterHyphen with
    | nil => cases read
    | cons c behind ih =>
        rw [readFlags] at read
        split at read
        · split at read
          · cases read
          · cases read
            exact List.suffix_cons c rest
        · refine List.IsSuffix.trans ?_ (List.suffix_cons c behind)
          split at read
          · split at read
            · cases read
            · exact ih _ _ _ read
          · split at read
            · split at read
              · cases read
              · exact ih _ _ _ read
            · cases read
  splits := by
    intro text result out read room
    induction text generalizing change negated afterHyphen with
    | nil =>
        cases afterHyphen with
        | true => cases read
        | false =>
            cases read
            exact absurd room (by decide)
    | cons c behind ih =>
        rw [List.cons_append, readFlags] at read
        rw [readFlags]
        split at read
        · rename_i mark
          split at read
          · cases read
          · rename_i noHyphen
            cases read
            exact .inl ⟨behind, by rw [if_pos mark, if_neg noHyphen], rfl⟩
        · rename_i noMark
          rw [if_neg noMark]
          split at read
          · rename_i hyphen
            rw [if_pos hyphen]
            split at read
            · cases read
            · rename_i first
              rw [if_neg first]
              exact ih _ _ _ read
          · rename_i noHyphen
            rw [if_neg noHyphen]
            split at read
            · split at read
              · cases read
              · rename_i flag known fresh
                simp only [if_neg fresh]
                exact ih _ _ _ read
            · cases read

theorem read_name_cuts (names : List (List Char)) : Cuts 0 Never (readName names) where
  suffix := by
    intro text name rest read
    unfold readName at read
    split at read
    · rename_i behind found
      obtain ⟨known, _, same⟩ := (bind_ok _ _ _).mp read
      cases same
      exact (List.suffix_cons '>' rest).trans (found ▸ List.dropWhile_suffix _)
    · cases read
  splits := by
    intro text name out read _
    unfold readName at read
    rcases mark_closing '>' (by decide) text with ⟨_, none⟩ | ⟨c, rest, alone, whole, taken⟩
    · rw [none] at read
      cases read
    · rw [whole, taken] at read
      split at read
      · rename_i behind angle
        cases angle
        obtain ⟨known, good, same⟩ := (bind_ok _ _ _).mp read
        cases same
        refine .inl ⟨rest, ?_, rfl⟩
        rw [readName, alone]
        exact (bind_ok _ _ _).mpr ⟨name, good, rfl⟩
      · cases read

theorem open_marked_cuts (names : List (List Char)) : Cuts 0 Never (openMarked names) where
  suffix := by
    intro text opening rest read
    unfold openMarked at read
    split at read
    · cases read
    · cases read
    · cases read
    · cases read
    · rename_i behind
      obtain ⟨⟨name, left⟩, named, later⟩ := (bind_ok _ _ _).mp read
      cases later
      exact ((read_name_cuts names).suffix _ name rest named).trans (List.suffix_append ['P', '<'] behind)
    · rename_i behind _ _
      obtain ⟨⟨name, left⟩, named, later⟩ := (bind_ok _ _ _).mp read
      cases later
      exact ((read_name_cuts names).suffix _ name rest named).trans (List.suffix_cons '<' behind)
    · exact (read_flags_cuts [] false false).suffix text opening rest read
  splits := by
    intro text opening out read room
    unfold openMarked at read
    split at read
    · cases read
    · cases read
    · cases read
    · cases read
    · rename_i behind same
      obtain ⟨inner, rfl, split⟩ := cons_closing_other 'P' _ text (by decide) same.symm
      obtain ⟨rest, rfl, rfl⟩ := cons_closing_other '<' behind inner (by decide) split
      obtain ⟨⟨name, left⟩, named, later⟩ := (bind_ok _ _ _).mp read
      cases later
      obtain ⟨final, alone, split⟩ :=
        (read_name_cuts names).alone rest name out named room
      exact .inl ⟨final, (bind_ok _ _ _).mpr ⟨_, alone, rfl⟩, split⟩
    · rename_i behind noAhead noBehind same
      obtain ⟨rest, rfl, rfl⟩ := cons_closing_other '<' behind text (by decide) same.symm
      obtain ⟨⟨name, left⟩, named, later⟩ := (bind_ok _ _ _).mp read
      cases later
      obtain ⟨final, alone, split⟩ :=
        (read_name_cuts names).alone rest name out named room
      refine .inl ⟨final, ?_, split⟩
      rw [openMarked]
      · exact (bind_ok _ _ _).mpr ⟨_, alone, rfl⟩
      · intro tail same
        exact noAhead (tail ++ closing) (by rw [same]; rfl)
      · intro tail same
        exact noBehind (tail ++ closing) (by rw [same]; rfl)
    · rename_i noAhead noNegated noBehind noNegatedBehind noNamed noAngle
      obtain ⟨final, alone, split⟩ := (read_flags_cuts [] false false).alone text opening out read room
      refine .inl ⟨final, ?_, split⟩
      unfold openMarked
      split
      · exact absurd rfl (noAhead _)
      · exact absurd rfl (noNegated _)
      · exact absurd rfl (noBehind _)
      · exact absurd rfl (noNegatedBehind _)
      · exact absurd rfl (noNamed _)
      · exact absurd rfl (noAngle _)
      · exact alone

theorem open_group_cuts (spaced : Bool) (names : List (List Char)) : Cuts 0 Never (openGroup spaced names) where
  suffix := by
    intro text opening rest read
    unfold openGroup at read
    split at read
    · rename_i behind found
      exact ((open_marked_cuts names).suffix behind opening rest read).trans
        ((List.suffix_cons '?' behind).trans (skip_cons_suffix spaced text behind '?' found))
    · cases read
      exact skip_suffix spaced text
  splits := by
    intro text opening out read room
    unfold openGroup at read
    split at read
    · rename_i behind found
      obtain ⟨inner, here, rfl⟩ := skip_closing_cons spaced text behind '?' (by decide) found
      rw [openGroup, here]
      exact (open_marked_cuts names).splits inner opening out read room
    · rename_i noMark
      cases read
      rcases skip_closing spaced text with same | ⟨_, none⟩
      · refine .inl ⟨skip spaced text, ?_, same⟩
        unfold openGroup
        split
        · rename_i behind found
          exact absurd (skip_front_closing spaced text behind '?' found) (noMark _)
        · rfl
      · rw [none] at room
        exact absurd room (by decide)

section Step

variable (fuel : Nat) (spaced : Bool) (names : List (List Char)) (branches items : List Tree) (text inner : List Char)

theorem read_branches_stop (found : skip spaced text = ')' :: inner) :
    readBranches (fuel + 1) spaced names branches items text =
      .ok (choiceOf (sequenceOf items :: branches), names, ')' :: inner) := by
  rw [readBranches, found]
  rfl

theorem read_branches_bar (found : skip spaced text = '|' :: inner) :
    readBranches (fuel + 1) spaced names branches items text =
      readBranches fuel spaced names (sequenceOf items :: branches) [] inner := by
  rw [readBranches, found]
  rfl

-- A group behind its opening, and the branches behind it.
def readGroup (opening : Opening) (rest : List Char) : Except Fault (Tree × List (List Char) × List Char) :=
  match opening with
  | .switch change =>
      if change = [] then .error .nothingToRepeat
      else readBranches fuel ((change.lookup .spaced).getD spaced) names branches (.flags change :: items) rest
  | opening =>
      readBranches fuel (((opening.enter names).2.1.lookup .spaced).getD spaced) (opening.enter names).2.2 [] [] rest >>= fun body =>
        match body with
        | (body, names, ')' :: rest) =>
            readBranches fuel spaced names branches (.group (opening.enter names).1 (opening.enter names).2.1 body :: items) rest
        | _ => .error .unclosedGroup

theorem read_group_enter (opening : Opening) (rest : List Char) (enters : ∀ change, opening ≠ .switch change) :
    readGroup fuel spaced names branches items opening rest =
      readBranches fuel (((opening.enter names).2.1.lookup .spaced).getD spaced) (opening.enter names).2.2 [] [] rest >>=
        fun body =>
          match body with
          | (body, names, ')' :: rest) =>
              readBranches fuel spaced names branches (.group (opening.enter names).1 (opening.enter names).2.1 body :: items) rest
          | _ => .error .unclosedGroup := by
  cases opening with
  | switch change => exact absurd rfl (enters change)
  | named name => rfl
  | plain => rfl
  | flags change => rfl

theorem read_branches_open (found : skip spaced text = '(' :: inner) :
    readBranches (fuel + 1) spaced names branches items text =
      openGroup spaced names inner >>= fun opened => readGroup fuel spaced names branches items opened.1 opened.2 := by
  rw [readBranches, found]
  refine bind_congr fun opened => ?_
  obtain ⟨opening, rest⟩ := opened
  cases opening <;> rfl

theorem read_branches_item (c : Char) (found : skip spaced text = c :: inner) (other : c ∉ [')', '|', '(']) :
    readBranches (fuel + 1) spaced names branches items text =
      readItem spaced items c inner >>= fun item => readBranches fuel spaced names branches item.1 item.2 := by
  rw [readBranches]
  split
  · rename_i nothing
    rw [found] at nothing
    cases nothing
  · rename_i stop
    rw [found] at stop
    exact absurd (by simp [(List.cons.inj stop).1]) other
  · rename_i bar
    rw [found] at bar
    exact absurd (by simp [(List.cons.inj bar).1]) other
  · rename_i group
    rw [found] at group
    exact absurd (by simp [(List.cons.inj group).1]) other
  · rename_i d rest _ _ _ same
    rw [found] at same
    cases same
    rfl

end Step

-- How a text goes on behind blanks: it is at its end, a group or a branch ends or starts, or there is an item.
inductive Front (text : List Char) : Prop
  | none : text = [] → Front text
  | stop (rest : List Char) : text = ')' :: rest → Front text
  | bar (rest : List Char) : text = '|' :: rest → Front text
  | opens (rest : List Char) : text = '(' :: rest → Front text
  | item (c : Char) (rest : List Char) : text = c :: rest → c ∉ [')', '|', '('] → Front text

theorem front (text : List Char) : Front text := by
  cases text with
  | nil => exact .none rfl
  | cons c rest =>
      by_cases stop : c = ')'
      · exact .stop rest (by rw [stop])
      · by_cases bar : c = '|'
        · exact .bar rest (by rw [bar])
        · by_cases opens : c = '('
          · exact .opens rest (by rw [opens])
          · exact .item c rest rfl (by simp [stop, bar, opens])

-- What is left with this fuel is the end of the text.
def Leaves (fuel : Nat) : Prop :=
  ∀ (spaced : Bool) (names known : List (List Char)) (branches items : List Tree) (text rest : List Char) (tree : Tree),
    readBranches fuel spaced names branches items text = .ok (tree, known, rest) → rest <:+ text

theorem read_group_suffix (fuel : Nat) (leaves : Leaves fuel) (spaced : Bool) (names known : List (List Char))
    (branches items : List Tree) (opening : Opening) (text rest : List Char) (tree : Tree)
    (read : readGroup fuel spaced names branches items opening text = .ok (tree, known, rest)) : rest <:+ text := by
  unfold readGroup at read
  split at read
  · split at read
    · cases read
    · exact leaves _ _ _ _ _ _ _ _ read
  · obtain ⟨⟨body, after, left⟩, nested, later⟩ := (bind_ok _ _ _).mp read
    split at later
    · rename_i same
      cases same
      exact (leaves _ _ _ _ _ _ _ _ later).trans ((List.suffix_cons ')' _).trans (leaves _ _ _ _ _ _ _ _ nested))
    · cases later

theorem read_branches_suffix (fuel : Nat) : Leaves fuel := by
  induction fuel with
  | zero =>
      intro spaced names known branches items text rest tree read
      cases read
  | succ fuel ih =>
      intro spaced names known branches items text rest tree read
      cases front (skip spaced text) with
      | none found =>
          rw [readBranches, found] at read
          cases read
          exact List.nil_suffix
      | stop inner found =>
          rw [read_branches_stop _ _ _ _ _ _ _ found] at read
          cases read
          exact skip_cons_suffix spaced text inner ')' found
      | bar inner found =>
          rw [read_branches_bar _ _ _ _ _ _ _ found] at read
          exact (ih _ _ _ _ _ _ _ _ read).trans ((List.suffix_cons _ inner).trans (skip_cons_suffix spaced text inner _ found))
      | opens inner found =>
          rw [read_branches_open _ _ _ _ _ _ _ found] at read
          obtain ⟨⟨opening, behind⟩, opened, group⟩ := (bind_ok _ _ _).mp read
          have inside := (open_group_cuts spaced names).suffix inner opening behind opened
          refine List.IsSuffix.trans ?_ (inside.trans ((List.suffix_cons _ inner).trans (skip_cons_suffix spaced text inner _ found)))
          exact read_group_suffix fuel ih _ _ _ _ _ opening behind rest tree group
      | item c inner found other =>
          rw [read_branches_item _ _ _ _ _ _ _ c found other] at read
          obtain ⟨⟨result, left⟩, item, later⟩ := (bind_ok _ _ _).mp read
          exact (ih _ _ _ _ _ _ _ _ later).trans (((read_item_cuts spaced items c).suffix inner result left item).trans
            ((List.suffix_cons c inner).trans (skip_cons_suffix spaced text inner c found)))

theorem skip_brace (spaced : Bool) (rest : List Char) : skip spaced ('{' :: rest) = '{' :: rest := by
  have noBlank : isBlank '{' = false := by decide
  cases spaced with
  | false => rfl
  | true => simp [skip, dropBlanks, noBlank]

-- No count starts with the closing.
theorem read_brace_left (fuel : Nat) (spaced : Bool) (names : List (List Char)) (branches items : List Tree) (text : List Char)
    (brace : BraceLeft spaced text) (result : Tree × List (List Char) × List Char) :
    readBranches fuel spaced names branches items text ≠ .ok result := by
  intro read
  obtain ⟨inner, blank, rfl⟩ := brace
  have noNumber : readNumber spaced (skip spaced (inner ++ closing)) = .ok (none, skip spaced (inner ++ closing)) := by
    rcases skip_closing spaced inner with same | ⟨_, none⟩
    · rw [same, blank]
      cases spaced <;> rfl
    · rw [none]
      rfl
  have noCount : readCount spaced (inner ++ closing) = .error .badCount := by
    rw [readCount, noNumber]
    rfl
  cases fuel with
  | zero => cases read
  | succ fuel =>
      rw [read_branches_item _ _ _ _ _ _ _ '{' (skip_brace spaced _) (by decide)] at read
      obtain ⟨_, item, _⟩ := (bind_ok _ _ _).mp read
      obtain ⟨_, count, _⟩ := (bind_ok _ _ _).mp item
      rw [noCount] at count
      cases count

-- What is read with this fuel in front of the closing is read without it, up to where it stood.
def Closes (fuel : Nat) : Prop :=
  ∀ (enough : Nat) (spaced : Bool) (names known : List (List Char)) (branches items : List Tree) (text out : List Char)
    (tree : Tree), text.length < enough →
    readBranches fuel spaced names branches items (text ++ closing) = .ok (tree, known, out) → closing.length ≤ out.length →
    ∃ rest, readBranches enough spaced names branches items text = .ok (tree, known, rest) ∧ out = rest ++ closing

theorem read_group_closing (fuel enough : Nat) (closes : Closes fuel) (spaced : Bool) (names known : List (List Char))
    (branches items : List Tree) (opening : Opening) (text out : List Char) (tree : Tree) (short : text.length < enough)
    (read : readGroup fuel spaced names branches items opening (text ++ closing) = .ok (tree, known, out))
    (room : closing.length ≤ out.length) :
    ∃ rest, readGroup enough spaced names branches items opening text = .ok (tree, known, rest) ∧ out = rest ++ closing := by
  by_cases switch : ∃ change, opening = .switch change
  · obtain ⟨change, rfl⟩ := switch
    unfold readGroup at read ⊢
    by_cases none : change = []
    · simp only [if_pos none] at read
      cases read
    · simp only [if_neg none] at read ⊢
      exact closes enough _ _ _ _ _ text out tree short read room
  · have enters (change : FlagChange) : opening ≠ .switch change := fun same => switch ⟨change, same⟩
    rw [read_group_enter _ _ _ _ _ _ _ enters] at read ⊢
    obtain ⟨⟨body, after, left⟩, nested, later⟩ := (bind_ok _ _ _).mp read
    split at later
    · rename_i inside groups behind same
      cases same
      have bound := (read_branches_suffix _ _ _ _ _ _ _ _ _ later).length_le
      obtain ⟨whole, aloneNested, split⟩ :=
        closes enough _ _ _ _ _ text _ body short nested (by rw [List.length_cons]; omega)
      obtain ⟨next, rfl, rfl⟩ := cons_closing ')' behind whole split (room.trans bound)
      have shorter := (read_branches_suffix _ _ _ _ _ _ _ _ _ aloneNested).length_le
      rw [List.length_cons] at shorter
      obtain ⟨rest, alone, split⟩ := closes enough _ _ _ _ _ next out tree (by omega) later room
      exact ⟨rest, (bind_ok _ _ _).mpr ⟨_, aloneNested, alone⟩, split⟩
    · cases later

theorem closes (fuel : Nat) : Closes fuel := by
  induction fuel with
  | zero =>
      intro enough spaced names known branches items text out tree _ read
      cases read
  | succ fuel ih =>
      intro enough spaced names known branches items text out tree short read room
      obtain ⟨enough, rfl⟩ : ∃ less, enough = less + 1 := ⟨enough - 1, by omega⟩
      cases front (skip spaced text) with
      | none found =>
          rcases skip_closing spaced text with same | ⟨_, none⟩
          · rw [found] at same
            rw [read_branches_stop _ _ _ _ _ _ ['$'] same] at read
            cases read
            exact ⟨[], by rw [readBranches, found], rfl⟩
          · rw [readBranches, none] at read
            cases read
            exact absurd room (by decide)
      | stop inner found =>
          rw [read_branches_stop _ _ _ _ _ _ _ (skip_front_closing spaced text inner _ found)] at read
          rw [read_branches_stop _ _ _ _ _ _ _ found]
          cases read
          exact ⟨')' :: inner, rfl, rfl⟩
      | bar inner found =>
          have shorter := skip_cons_length spaced text inner _ found
          rw [read_branches_bar _ _ _ _ _ _ _ (skip_front_closing spaced text inner _ found)] at read
          rw [read_branches_bar _ _ _ _ _ _ _ found]
          exact ih enough _ _ _ _ _ inner out tree (by omega) read room
      | opens inner found =>
          have shorter := skip_cons_length spaced text inner _ found
          rw [read_branches_open _ _ _ _ _ _ _ (skip_front_closing spaced text inner _ found)] at read
          rw [read_branches_open _ _ _ _ _ _ _ found]
          obtain ⟨⟨opening, behind⟩, opened, group⟩ := (bind_ok _ _ _).mp read
          have bound := (read_group_suffix fuel (read_branches_suffix fuel) _ _ _ _ _ _ _ _ _ group).length_le
          obtain ⟨next, alone, rfl⟩ :=
            (open_group_cuts spaced names).alone inner opening behind opened (room.trans bound)
          have left := ((open_group_cuts spaced names).suffix inner opening next alone).length_le
          obtain ⟨rest, aloneGroup, split⟩ :=
            read_group_closing fuel enough ih spaced names known branches items opening next out tree (by omega) group room
          exact ⟨rest, (bind_ok _ _ _).mpr ⟨_, alone, aloneGroup⟩, split⟩
      | item c inner found other =>
          have shorter := skip_cons_length spaced text inner _ found
          rw [read_branches_item _ _ _ _ _ _ _ c (skip_front_closing spaced text inner c found) other] at read
          rw [read_branches_item _ _ _ _ _ _ _ c found other]
          obtain ⟨⟨result, left⟩, item, later⟩ := (bind_ok _ _ _).mp read
          have behind := (read_branches_suffix _ _ _ _ _ _ _ _ _ later).length_le
          rcases (read_item_cuts spaced items c).splits inner result left item (room.trans behind) with ⟨next, alone, rfl⟩ | brace
          · have bound := ((read_item_cuts spaced items c).suffix inner result next alone).length_le
            obtain ⟨rest, aloneLater, split⟩ := ih enough _ _ _ _ _ next out tree (by omega) later room
            exact ⟨rest, (bind_ok _ _ _).mpr ⟨_, alone, aloneLater⟩, split⟩
          · exact absurd later (read_brace_left _ _ _ _ _ _ brace _)

end PathTemplates.Regex
