import PathTemplates.Proofs.Escapes
import PathTemplates.Regex.Bracket

set_option autoImplicit false

/-! Reading a set of characters in front of a closing parenthesis. -/

namespace PathTemplates.Regex

-- What stands behind the caret that may negate a set.
def behindCaret (text : List Char) : List Char := if (decide (text.head? = some '^') : Bool) then text.tail else text

theorem behind_caret_suffix (text : List Char) : behindCaret text <:+ text := by
  unfold behindCaret
  split
  · exact List.tail_suffix text
  · exact List.suffix_refl text

theorem caret_closing (text : List Char) : (text ++ closing).head? = some '^' ↔ text.head? = some '^' := by
  cases text with
  | nil => decide
  | cons c rest => rfl

theorem behind_caret_closing (text : List Char) : behindCaret (text ++ closing) = behindCaret text ++ closing := by
  cases text with
  | nil => decide
  | cons c rest =>
      unfold behindCaret
      rw [List.cons_append, List.head?_cons, List.head?_cons]
      split <;> rfl

theorem read_ascii_eq (text : List Char) :
    readAscii? (':' :: text) =
      match (behindCaret text).dropWhile (· ≠ ':') with
      | ':' :: ']' :: rest =>
          (asciiSet? (String.ofList ((behindCaret text).takeWhile (· ≠ ':')))).map fun members =>
            (.ascii members (text.head? = some '^'), rest)
      | _ => none := rfl

theorem read_ascii_suffix (text rest : List Char) (set : ClassSet) (read : readAscii? text = some (set, rest)) :
    rest <:+ text := by
  unfold readAscii? at read
  split at read
  · rename_i behind
    have named : readAscii? (':' :: behind) = some (set, rest) := read
    rw [read_ascii_eq] at named
    split at named
    · rename_i left found
      obtain ⟨members, _, same⟩ := Option.map_eq_some_iff.mp named
      cases same
      have closed : ':' :: ']' :: rest <:+ behindCaret behind := found ▸ List.dropWhile_suffix _
      have inside : rest <:+ ':' :: ']' :: rest := ⟨[':', ']'], rfl⟩
      exact inside.trans (closed.trans ((behind_caret_suffix behind).trans (List.suffix_cons ':' behind)))
    · cases named
  · cases read

theorem read_ascii_other (text : List Char) (noColon : ∀ rest, text ≠ ':' :: rest) : readAscii? text = none := by
  unfold readAscii?
  split
  · exact absurd rfl (noColon _)
  · rfl

-- No character of the closing belongs to a named set.
theorem read_ascii_closing (text : List Char) :
    readAscii? (text ++ closing) = (readAscii? text).map fun found => (found.1, found.2 ++ closing) := by
  cases text with
  | nil => rfl
  | cons c behind =>
      by_cases colon : c = ':'
      · rw [colon, List.cons_append, read_ascii_eq, read_ascii_eq, behind_caret_closing]
        have negated : decide ((behind ++ closing).head? = some '^') = decide (behind.head? = some '^') :=
          decide_eq_decide.mpr (caret_closing behind)
        rw [negated]
        rcases mark_closing ':' (by decide) (behindCaret behind) with ⟨alone, whole⟩ | ⟨d, rest, alone, whole, name⟩
        · rw [alone, whole]
          rfl
        · rw [alone, whole, name]
          cases rest with
          | nil =>
              split
              · rename_i same
                cases same
              · split
                · rename_i same
                  cases same
                · rfl
          | cons e final =>
              by_cases closed : d = ':' ∧ e = ']'
              · obtain ⟨rfl, rfl⟩ := closed
                simp only [List.cons_append, Option.map_map]
                rfl
              · split
                · rename_i same
                  cases same
                  exact absurd ⟨rfl, rfl⟩ closed
                · split
                  · rename_i same
                    cases same
                    exact absurd ⟨rfl, rfl⟩ closed
                  · rfl
      · have noColon (left rest : List Char) : c :: left ≠ ':' :: rest := fun same => colon (List.cons.inj same).1
        rw [List.cons_append, read_ascii_other _ (noColon _), read_ascii_other _ (noColon _)]
        rfl

theorem after_hyphen_closing (spaced passedSign : Bool) (text : List Char) :
    afterHyphen? spaced passedSign (text ++ closing) = (afterHyphen? spaced passedSign text).or (some ')') := by
  induction text generalizing passedSign with
  | nil => cases spaced <;> cases passedSign <;> decide
  | cons c rest ih =>
      rw [List.cons_append, afterHyphen?, afterHyphen?]
      split
      · rfl
      · split
        · exact ih passedSign
        · split
          · exact ih true
          · rfl

theorem read_class_atom_suffix (spaced : Bool) (text rest : List Char) (tree : Tree)
    (read : readClassAtom spaced text = .ok (tree, rest)) : ∃ c behind, text = c :: behind ∧ rest <:+ behind := by
  unfold readClassAtom at read
  split at read
  · cases read
  · exact ⟨_, _, rfl, (read_escape_cuts spaced).suffix _ tree rest read⟩
  · cases read
    exact ⟨_, _, rfl, List.suffix_refl _⟩

theorem read_class_atom_cuts (spaced : Bool) : Cuts 0 (Dangling spaced) (readClassAtom spaced) where
  suffix := by
    intro text tree rest read
    obtain ⟨c, behind, rfl, inside⟩ := read_class_atom_suffix spaced text rest tree read
    exact inside.trans (List.suffix_cons c behind)
  splits := by
    intro text tree out read left
    cases text with
    | nil =>
        cases read
        exact absurd left (by decide)
    | cons c behind =>
        by_cases slash : c = '\\'
        · rw [slash] at read ⊢
          exact (read_escape_cuts spaced).splits behind tree out read left
        · have literal (rest : List Char) : readClassAtom spaced (c :: rest) = .ok (.literal c false, rest) := by
            rw [readClassAtom]
            exact slash
          rw [List.cons_append, literal] at read
          cases read
          exact .inl ⟨behind, literal behind, rfl⟩

theorem range_of_edge (first : Tree) (kind : Assertion) : rangeOf first (.assertion kind) = .error .badRange := by
  cases first <;> rfl

theorem read_range_edge (spaced : Bool) (kind : Assertion) (text : List Char) (final : ClassSet × List Char) :
    readRange spaced (.assertion kind) text ≠ .ok final := by
  intro read
  unfold readRange at read
  split at read
  · cases read
  · split at read
    · cases read
    · obtain ⟨_, _, range⟩ := (bind_ok _ _ _).mp read
      cases range
  · cases read

theorem read_range_cuts (spaced : Bool) (first : Tree) : Cuts 1 Never (readRange spaced first) where
  suffix := by
    intro text set rest read
    unfold readRange at read
    split at read
    · cases read
    · rename_i behind found
      have hyphen : '-' :: behind <:+ text := skip_cons_suffix spaced text behind '-' found
      split at read
      · obtain ⟨item, _, same⟩ := (bind_ok _ _ _).mp read
        cases same
        exact hyphen
      · obtain ⟨⟨last, left⟩, second, range⟩ := (bind_ok _ _ _).mp read
        obtain ⟨item, _, same⟩ := (bind_ok _ _ _).mp range
        cases same
        have inside := ((read_class_atom_cuts spaced).suffix _ last rest second).trans (skip_suffix spaced behind)
        exact inside.trans ((List.suffix_cons '-' behind).trans hyphen)
    · obtain ⟨item, _, same⟩ := (bind_ok _ _ _).mp read
      cases same
      exact skip_suffix spaced text
  splits := by
    intro text set out read left
    unfold readRange at read
    split at read
    · cases read
    · rename_i inner found
      obtain ⟨rest, here, rfl⟩ := skip_closing_cons spaced text inner '-' (by decide) found
      have mark (c : Char) (other : c ≠ ')') :
          afterHyphen? spaced false (rest ++ closing) = some c ↔ afterHyphen? spaced false rest = some c := by
        rw [after_hyphen_closing]
        cases afterHyphen? spaced false rest <;> simp [other.symm]
      simp only [mark ']' (by decide), mark '-' (by decide)] at read
      split at read
      · rename_i ends
        obtain ⟨item, known, same⟩ := (bind_ok _ _ _).mp read
        cases same
        refine .inl ⟨'-' :: rest, ?_, rfl⟩
        simp only [readRange, here, if_pos ends, known]
        rfl
      · rename_i goesOn
        obtain ⟨⟨last, behind⟩, second, range⟩ := (bind_ok _ _ _).mp read
        obtain ⟨item, known, same⟩ := (bind_ok _ _ _).mp range
        cases same
        rcases skip_closing spaced rest with split | ⟨_, none⟩
        · rw [split] at second
          rcases (read_class_atom_cuts spaced).splits _ last _ second (Nat.le_of_succ_le left) with ⟨final, alone, same⟩ | ⟨edge, _⟩
          · refine .inl ⟨final, ?_, same⟩
            simp only [readRange, here, if_neg goesOn, alone]
            exact (bind_ok _ _ _).mpr ⟨(last, final), rfl, (bind_ok _ _ _).mpr ⟨set, known, rfl⟩⟩
          · rw [edge, range_of_edge] at known
            cases known
        · rw [none] at second
          cases second
    · rename_i noHyphen
      obtain ⟨item, known, same⟩ := (bind_ok _ _ _).mp read
      cases same
      rcases skip_closing spaced text with split | ⟨_, none⟩
      · rw [split] at left noHyphen ⊢
        cases here : skip spaced text with
        | nil =>
            rw [here] at left
            exact absurd left (by decide)
        | cons c inner =>
            refine .inl ⟨c :: inner, ?_, rfl⟩
            rw [here] at noHyphen
            have other : c ≠ '-' := fun hyphen => noHyphen (inner ++ closing) (by rw [hyphen]; rfl)
            unfold readRange
            split
            · rename_i nothing
              rw [here] at nothing
              cases nothing
            · rename_i hyphen
              rw [here] at hyphen
              exact absurd (List.cons.inj hyphen).1 other
            · rw [known, here]
              rfl
      · rw [none] at left
        exact absurd left (by decide)

theorem read_class_item_cuts (spaced : Bool) : Cuts 1 Never (readClassItem spaced) := by
  refine cuts_bind 1 (Dangling spaced) (readClassAtom spaced) (readRange spaced)
    (cuts_spare 0 1 _ _ (read_class_atom_cuts spaced) (Nat.zero_le 1)) (read_range_cuts spaced) ?_
  intro tree out final astray
  rw [astray.1]
  exact read_range_edge spaced (.boundary .edge) out final

theorem read_class_item_shorter (spaced : Bool) (text rest : List Char) (item : ClassSet)
    (read : readClassItem spaced text = .ok (item, rest)) : rest.length < text.length := by
  obtain ⟨⟨first, left⟩, atom, range⟩ := (bind_ok _ _ _).mp read
  obtain ⟨c, behind, rfl, inside⟩ := read_class_atom_suffix spaced text left first atom
  have bound := (((read_range_cuts spaced first).suffix left item rest range).trans inside).length_le
  exact Nat.lt_succ_of_le bound

-- What opens a set, told by the hyphens and what stands behind them.
def openingOf (negated : Bool) (hyphens rest : List Char) : Except Fault (Bool × List ClassSet × List Char) :=
  match hyphens, rest with
  | _, [] => .error .unclosedClass
  | [], ']' :: rest => .ok (negated, [.char ']'], rest)
  | hyphens, rest => .ok (negated, hyphens.map .char, rest)

theorem open_class_eq (spaced : Bool) (text : List Char) :
    openClass spaced text =
      openingOf ((skip spaced text).head? = some '^') (gatherAll spaced (· = '-') (behindCaret (skip spaced text))).1
        (gatherAll spaced (· = '-') (behindCaret (skip spaced text))).2 := rfl

theorem opening_of_suffix (negated known : Bool) (hyphens text rest : List Char) (opening : List ClassSet)
    (read : openingOf negated hyphens text = .ok (known, opening, rest)) : rest <:+ text := by
  unfold openingOf at read
  split at read
  · cases read
  · cases read
    exact List.suffix_cons ']' rest
  · cases read
    exact List.suffix_refl _

theorem opening_of_closing (negated known : Bool) (hyphens text out : List Char) (opening : List ClassSet)
    (read : openingOf negated hyphens (text ++ closing) = .ok (known, opening, out)) (left : closing.length + 1 ≤ out.length) :
    ∃ rest, openingOf negated hyphens text = .ok (known, opening, rest) ∧ out = rest ++ closing := by
  cases text with
  | nil =>
      have bound := (opening_of_suffix negated known hyphens closing out opening read).length_le
      omega
  | cons c rest =>
      by_cases bracket : hyphens = [] ∧ c = ']'
      · obtain ⟨rfl, rfl⟩ := bracket
        cases read
        exact ⟨rest, rfl, rfl⟩
      · have plain (more : List Char) : openingOf negated hyphens (c :: more) = .ok (negated, hyphens.map .char, c :: more) := by
          unfold openingOf
          split
          · rename_i same
            cases same
          · rename_i same
            exact absurd ⟨rfl, (List.cons.inj same).1⟩ bracket
          · rfl
        rw [List.cons_append, plain] at read
        cases read
        exact ⟨c :: rest, plain rest, rfl⟩

theorem open_class_suffix (spaced negated : Bool) (text rest : List Char) (opening : List ClassSet)
    (read : openClass spaced text = .ok (negated, opening, rest)) : rest <:+ text := by
  rw [open_class_eq] at read
  have behind := opening_of_suffix _ negated _ _ rest opening read
  exact behind.trans ((gather_all_suffix _ _ _ _ _ rfl).trans ((behind_caret_suffix _).trans (skip_suffix spaced text)))

theorem open_class_closing (spaced negated : Bool) (text out : List Char) (opening : List ClassSet)
    (read : openClass spaced (text ++ closing) = .ok (negated, opening, out)) (left : closing.length + 1 ≤ out.length) :
    ∃ rest, openClass spaced text = .ok (negated, opening, rest) ∧ out = rest ++ closing := by
  rw [open_class_eq] at read ⊢
  rcases skip_closing spaced text with same | ⟨_, none⟩
  · have caret : decide ((skip spaced text ++ closing).head? = some '^') = decide ((skip spaced text).head? = some '^') :=
      decide_eq_decide.mpr (caret_closing (skip spaced text))
    rw [same, behind_caret_closing, caret] at read
    cases taken : gatherAll spaced (fun c => decide (c = '-')) (behindCaret (skip spaced text) ++ closing) with
    | mk hyphens behind =>
        rw [taken] at read
        have room := (opening_of_suffix _ negated hyphens behind out opening read).length_le
        obtain ⟨rest, alone, rfl⟩ := gather_all_closing spaced _ _ hyphens behind taken (by omega)
        rw [alone]
        exact opening_of_closing _ negated hyphens rest out opening read left
  · rw [none] at read
    cases read

theorem read_class_suffix (fuel : Nat) (spaced : Bool) (left : Option (SetOperation × ClassSet)) (items : List ClassSet)
    (text rest : List Char) (set : ClassSet) (read : readClass fuel spaced left items text = .ok (set, rest)) :
    ']' :: rest <:+ text := by
  induction fuel generalizing left items text set rest with
  | zero => cases read
  | succ fuel ih =>
      rw [readClass] at read
      have front := skip_suffix spaced text
      split at read
      · rename_i behind found
        cases read
        exact found ▸ front
      · rename_i behind found
        have inside : behind <:+ text := (List.suffix_cons '[' behind).trans (found ▸ front)
        split at read
        · rename_i item after named
          exact (ih _ _ _ _ _ read).trans ((read_ascii_suffix behind after item named).trans inside)
        · obtain ⟨⟨negated, opening, first⟩, opened, nested⟩ := (bind_ok _ _ _).mp read
          obtain ⟨⟨body, second⟩, inner, later⟩ := (bind_ok _ _ _).mp nested
          have start := open_class_suffix spaced negated behind first opening opened
          have stop : second <:+ first := (List.suffix_cons ']' second).trans (ih _ _ _ _ _ inner)
          exact (ih _ _ _ _ _ later).trans (stop.trans (start.trans inside))
      · rename_i behind found
        rw [found] at front
        exact (ih _ _ _ _ _ read).trans ((List.suffix_append ['&', '&'] behind).trans front)
      · rename_i behind found
        rw [found] at front
        exact (ih _ _ _ _ _ read).trans ((List.suffix_append ['-', '-'] behind).trans front)
      · rename_i behind found
        rw [found] at front
        exact (ih _ _ _ _ _ read).trans ((List.suffix_append ['~', '~'] behind).trans front)
      · obtain ⟨⟨item, after⟩, first, later⟩ := (bind_ok _ _ _).mp read
        exact (ih _ _ _ _ _ later).trans (((read_class_item_cuts spaced).suffix _ item after first).trans front)

-- A text in brackets that neither ends the set, opens another one nor starts with an operator.
structure StartsItem (text : List Char) : Prop where
  stop : ∀ rest, text ≠ ']' :: rest
  start : ∀ rest, text ≠ '[' :: rest
  intersection : ∀ rest, text ≠ '&' :: '&' :: rest
  difference : ∀ rest, text ≠ '-' :: '-' :: rest
  symmetric : ∀ rest, text ≠ '~' :: '~' :: rest

theorem starts_item_closing (text : List Char) (starts : StartsItem (text ++ closing)) : StartsItem text where
  stop := fun rest same => starts.stop (rest ++ closing) (by rw [same]; rfl)
  start := fun rest same => starts.start (rest ++ closing) (by rw [same]; rfl)
  intersection := fun rest same => starts.intersection (rest ++ closing) (by rw [same]; rfl)
  difference := fun rest same => starts.difference (rest ++ closing) (by rw [same]; rfl)
  symmetric := fun rest same => starts.symmetric (rest ++ closing) (by rw [same]; rfl)

theorem read_class_starts (fuel : Nat) (spaced : Bool) (left : Option (SetOperation × ClassSet)) (items : List ClassSet)
    (text : List Char) (starts : StartsItem (skip spaced text)) :
    readClass (fuel + 1) spaced left items text =
      readClassItem spaced (skip spaced text) >>= fun item => readClass fuel spaced left (item.1 :: items) item.2 := by
  rw [readClass]
  split
  · rename_i found
    exact absurd found (starts.stop _)
  · rename_i found
    exact absurd found (starts.start _)
  · rename_i found
    exact absurd found (starts.intersection _)
  · rename_i found
    exact absurd found (starts.difference _)
  · rename_i found
    exact absurd found (starts.symmetric _)
  · rfl

section Opened

variable (fuel : Nat) (spaced : Bool) (left : Option (SetOperation × ClassSet)) (items : List ClassSet) (text inner : List Char)
  (found : skip spaced text = '[' :: inner)

include found

theorem read_class_named (item : ClassSet) (rest : List Char) (named : readAscii? inner = some (item, rest)) :
    readClass (fuel + 1) spaced left items text = readClass fuel spaced left (item :: items) rest := by
  rw [readClass, found]
  simp only [named]

theorem read_class_nested (plain : readAscii? inner = none) :
    readClass (fuel + 1) spaced left items text =
      openClass spaced inner >>= fun opened => readClass fuel spaced none opened.2.1 opened.2.2 >>= fun body =>
        readClass fuel spaced left (.bracket opened.1 body.1 :: items) body.2 := by
  rw [readClass, found]
  simp only [plain]

end Opened

theorem operator_closing (spaced : Bool) (mark : Char) (other : mark ≠ ')') (text behind : List Char)
    (found : skip spaced (text ++ closing) = mark :: mark :: behind) :
    ∃ rest, skip spaced text = mark :: mark :: rest ∧ behind = rest ++ closing ∧ rest.length < text.length := by
  obtain ⟨inner, here, split⟩ := skip_closing_cons spaced text _ mark other found
  obtain ⟨rest, rfl, same⟩ := cons_closing_other mark behind inner other split
  exact ⟨rest, here, same, Nat.lt_of_succ_lt (skip_cons_length spaced text _ mark here)⟩

theorem read_class_closing (spaced : Bool) (fuel enough : Nat) (left : Option (SetOperation × ClassSet)) (items : List ClassSet)
    (text out : List Char) (set : ClassSet) (short : text.length < enough)
    (read : readClass fuel spaced left items (text ++ closing) = .ok (set, out)) (room : closing.length ≤ out.length) :
    ∃ rest, readClass enough spaced left items text = .ok (set, rest) ∧ out = rest ++ closing := by
  induction fuel generalizing enough left items text set out with
  | zero => cases read
  | succ fuel ih =>
      obtain ⟨enough, rfl⟩ : ∃ less, enough = less + 1 := ⟨enough - 1, by omega⟩
      by_cases starts : StartsItem (skip spaced (text ++ closing))
      · rw [read_class_starts fuel spaced left items _ starts] at read
        obtain ⟨⟨item, after⟩, first, later⟩ := (bind_ok _ _ _).mp read
        have behind := (read_class_suffix _ _ _ _ _ _ _ later).length_le
        rw [List.length_cons] at behind
        rcases skip_closing spaced text with same | ⟨_, none⟩
        · rw [same] at first starts
          obtain ⟨next, alone, rfl⟩ :=
            (read_class_item_cuts spaced).alone _ item after first (by dsimp only at behind; omega)
          have shorter := read_class_item_shorter spaced _ next item alone
          have bound := (skip_suffix spaced text).length_le
          obtain ⟨final, aloneLater, split⟩ := ih enough left (item :: items) next out set (by omega) later room
          refine ⟨final, ?_, split⟩
          rw [read_class_starts enough spaced left items text (starts_item_closing _ starts)]
          exact (bind_ok _ _ _).mpr ⟨_, alone, aloneLater⟩
        · rw [none] at first
          cases first
      · rw [readClass] at read
        split at read
        · rename_i behind found
          obtain ⟨rest, here, rfl⟩ := skip_closing_cons spaced text behind ']' (by decide) found
          cases read
          refine ⟨rest, ?_, rfl⟩
          rw [readClass, here]
          rfl
        · rename_i behind found
          obtain ⟨inner, here, rfl⟩ := skip_closing_cons spaced text behind '[' (by decide) found
          have shorter := skip_cons_length spaced text inner '[' here
          have same := read_ascii_closing inner
          cases named : readAscii? inner with
          | some pair =>
              obtain ⟨item, after⟩ := pair
              have bound := (read_ascii_suffix inner after item named).length_le
              rw [named] at same
              rw [same] at read
              rw [read_class_named enough spaced left items text inner here item after named]
              exact ih enough left (item :: items) after out set (by omega) read room
          | none =>
              rw [named] at same
              rw [same] at read
              rw [read_class_nested enough spaced left items text inner here named]
              obtain ⟨⟨negated, opening, first⟩, opened, nested⟩ := (bind_ok _ _ _).mp read
              obtain ⟨⟨body, second⟩, within, later⟩ := (bind_ok _ _ _).mp nested
              have stop := (read_class_suffix _ _ _ _ _ _ _ within).length_le
              have behind := (read_class_suffix _ _ _ _ _ _ _ later).length_le
              rw [List.length_cons] at stop behind
              obtain ⟨start, aloneOpened, rfl⟩ := open_class_closing spaced negated inner first opening opened (by omega)
              have bound := (open_class_suffix spaced negated inner start opening aloneOpened).length_le
              obtain ⟨middle, aloneWithin, rfl⟩ := ih enough none opening start second body (by omega) within (by omega)
              have boundWithin := (read_class_suffix _ _ _ _ _ _ _ aloneWithin).length_le
              rw [List.length_cons] at boundWithin
              obtain ⟨final, aloneLater, split⟩ := ih enough left _ middle out set (by omega) later room
              exact ⟨final, (bind_ok _ _ _).mpr ⟨_, aloneOpened, (bind_ok _ _ _).mpr ⟨_, aloneWithin, aloneLater⟩⟩, split⟩
        · rename_i behind found
          obtain ⟨rest, here, rfl, shorter⟩ := operator_closing spaced '&' (by decide) text behind found
          rw [readClass, here]
          exact ih enough _ _ rest out set (by omega) read room
        · rename_i behind found
          obtain ⟨rest, here, rfl, shorter⟩ := operator_closing spaced '-' (by decide) text behind found
          rw [readClass, here]
          exact ih enough _ _ rest out set (by omega) read room
        · rename_i behind found
          obtain ⟨rest, here, rfl, shorter⟩ := operator_closing spaced '~' (by decide) text behind found
          rw [readClass, here]
          exact ih enough _ _ rest out set (by omega) read room
        · rename_i stop start intersection difference symmetric
          exact absurd ⟨stop, start, intersection, difference, symmetric⟩ starts

end PathTemplates.Regex
