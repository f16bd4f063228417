import PathTemplates.Proofs.Reading
import PathTemplates.Regex.Escape

set_option autoImplicit false

/-! Reading what follows a backslash in front of a closing parenthesis. -/

namespace PathTemplates.Regex

theorem read_code_cuts (spaced : Bool) (size : Nat) : Cuts 0 Never (readCode spaced size) where
  suffix := by
    intro text result rest read
    unfold readCode at read
    split at read
    · rename_i inner found
      split at read
      · rename_i digits left taken
        split at read
        · cases read
          exact (List.suffix_cons '}' rest).trans ((gather_all_suffix _ _ _ _ _ taken).trans
            ((List.suffix_cons '{' inner).trans (skip_cons_suffix spaced text inner '{' found)))
        · cases read
      · cases read
    · dsimp only at read
      split at read
      · split at read
        · cases read
          exact (gather_suffix _ _ _ _ _).trans (skip_suffix spaced text)
        · cases read
      · cases read
  splits := by
    intro text result out read left
    unfold readCode at read ⊢
    split at read
    · rename_i inner found
      obtain ⟨rest, here, rfl⟩ := skip_closing_cons spaced text inner '{' (by decide) found
      split at read
      · rename_i digits after taken
        split at read
        · rename_i c code
          cases read
          obtain ⟨final, alone, rfl⟩ := gather_all_closing_cons _ _ _ _ _ _ taken left
          exact .inl ⟨final, by simp only [here, alone, code], rfl⟩
        · cases read
      · cases read
    · rename_i noBrace
      dsimp only at read
      split at read
      · rename_i exact
        split at read
        · rename_i c code
          cases read
          rcases skip_closing spaced text with same | ⟨_, none⟩
          · rw [same] at exact code left noBrace ⊢
            have split := gather_closing _ _ _ _ _ left
            rw [split] at exact code ⊢
            refine .inl ⟨_, ?_, rfl⟩
            split
            · rename_i rest found
              exact absurd (by rw [found]; rfl) (noBrace (rest ++ closing))
            · simp only [if_pos exact, code]
          · rw [none] at left
            exact absurd left (by simp [gather, closing])
        · cases read
      · cases read

theorem read_property_cuts (spaced negated : Bool) : Cuts 0 Never (readProperty spaced negated) where
  suffix := by
    intro text result rest read
    unfold readProperty at read
    split at read
    · cases read
    · rename_i inner found
      split at read
      · rename_i name left taken
        cases read
        exact (List.suffix_cons '}' rest).trans ((gather_all_suffix _ _ _ _ _ taken).trans
          ((List.suffix_cons '{' inner).trans (skip_cons_suffix spaced text inner '{' found)))
      · cases read
    · cases read
    · rename_i c left _ _ found
      cases read
      exact (List.suffix_cons c rest).trans (skip_cons_suffix spaced text rest c found)
  splits := by
    intro text result out read left
    unfold readProperty at read
    split at read
    · cases read
    · rename_i inner found
      obtain ⟨rest, here, rfl⟩ := skip_closing_cons spaced text inner '{' (by decide) found
      split at read
      · rename_i name after taken
        cases read
        obtain ⟨final, alone, rfl⟩ := gather_all_closing_cons _ _ _ _ _ _ taken left
        refine .inl ⟨final, ?_, rfl⟩
        simp only [readProperty, here, alone]
        rfl
      · cases read
    · cases read
    · rename_i c after noBrace noSlash found
      cases read
      obtain ⟨rest, here, rfl⟩ := skip_closing_room spaced text out c found left
      refine .inl ⟨rest, ?_, rfl⟩
      unfold readProperty
      simp only [here]

-- What is left from a brace on behind which the text has nothing but blanks.
def BraceLeft (spaced : Bool) (out : List Char) : Prop := ∃ inner, skip spaced inner = [] ∧ out = '{' :: (inner ++ closing)

-- An edge of a word in front of such a brace. Without the closing it is no edge, and with it no count can follow.
def Dangling (spaced : Bool) (tree : Tree) (out : List Char) : Prop :=
  tree = .assertion (.boundary .edge) ∧ BraceLeft spaced out

theorem read_edge_other (spaced : Bool) (text : List Char) (noBrace : ∀ inner, text ≠ '{' :: inner) :
    readEdge spaced text = .ok (.assertion (.boundary .edge), text) := by
  unfold readEdge
  split
  · rename_i inner
    exact absurd rfl (noBrace inner)
  · rfl

theorem read_edge_cuts (spaced : Bool) : Cuts 0 (Dangling spaced) (readEdge spaced) where
  suffix := by
    intro text tree rest read
    unfold readEdge at read
    split at read
    · rename_i inner
      split at read
      · cases read
      · split at read
        · split at read
          · rename_i name left taken
            have short : left <:+ '{' :: inner :=
              (List.suffix_cons '}' left).trans ((gather_all_suffix _ _ _ _ _ taken).trans (List.suffix_cons '{' inner))
            split at read <;> cases read <;> exact short
          · cases read
        · cases read
          exact List.suffix_refl _
    · cases read
      exact List.suffix_refl _
  splits := by
    intro text tree out read left
    by_cases brace : ∃ inner, text = '{' :: inner
    · obtain ⟨inner, rfl⟩ := brace
      rw [List.cons_append, readEdge] at read
      split at read
      · cases read
      · rename_i c after found
        by_cases named : isBoundaryChar c = true
        · rw [if_pos named] at read
          have other : c ≠ ')' := by
            intro same
            rw [same] at named
            exact absurd named (by decide)
          obtain ⟨rest, here, rfl⟩ := skip_closing_cons spaced inner after c other found
          split at read
          · rename_i name behind taken
            have room : closing.length ≤ behind.length := by
              split at read <;> cases read <;> exact left
            obtain ⟨final, alone, rfl⟩ := gather_all_closing_cons _ _ _ _ _ _ taken room
            split at read <;> rename_i same <;> cases read <;>
              exact .inl ⟨final, by simp only [readEdge, here, if_pos named, alone, same], rfl⟩
          · cases read
        · rw [if_neg named] at read
          cases read
          cases here : skip spaced inner with
          | nil => exact .inr ⟨rfl, inner, here, rfl⟩
          | cons d rest =>
              have same : d = c := by
                rcases skip_closing spaced inner with split | ⟨blank, _⟩
                · rw [found, here] at split
                  exact (List.cons.inj split).1.symm
                · rw [here] at blank
                  cases blank
              refine .inl ⟨'{' :: inner, ?_, rfl⟩
              simp only [readEdge, here, same, if_neg named]
    · have alone : ∀ inner, text ≠ '{' :: inner := fun inner same => brace ⟨inner, same⟩
      have whole : ∀ inner, text ++ closing ≠ '{' :: inner := by
        intro inner same
        cases text with
        | nil => cases same
        | cons c rest => exact alone rest (by rw [(List.cons.inj same).1])
      rw [read_edge_other spaced _ whole] at read
      cases read
      exact .inl ⟨text, read_edge_other spaced text alone, rfl⟩

-- What the character behind a backslash has read.
inductive EscapeReads (spaced : Bool) (c : Char) : Prop
  | code (size : Nat) : (∀ rest, readEscape spaced (c :: rest) = readCode spaced size rest) → EscapeReads spaced c
  | property (negated : Bool) : (∀ rest, readEscape spaced (c :: rest) = readProperty spaced negated rest) → EscapeReads spaced c
  | edge : (∀ rest, readEscape spaced (c :: rest) = readEdge spaced rest) → EscapeReads spaced c
  | nothing (tree : Tree) : (∀ rest, readEscape spaced (c :: rest) = .ok (tree, rest)) → EscapeReads spaced c
  | refused : (∀ rest, readEscape spaced (c :: rest) = .error .badEscape) → EscapeReads spaced c

theorem escape_reads (spaced : Bool) (c : Char) : EscapeReads spaced c := by
  generalize same : [c] = text
  fun_cases readEscape spaced text
  case case1 => cases same
  case case25 mark =>
    cases same
    exact .nothing _ fun rest => by rw [readEscape, if_pos mark] <;> assumption
  case case26 noMark =>
    cases same
    exact .refused fun rest => by rw [readEscape, if_neg noMark] <;> assumption
  all_goals cases same
  all_goals first
    | exact .code _ fun _ => rfl
    | exact .property _ fun _ => rfl
    | exact .edge fun _ => rfl
    | exact .nothing _ fun _ => rfl

theorem read_escape_cuts (spaced : Bool) : Cuts 0 (Dangling spaced) (readEscape spaced) where
  suffix := by
    intro text tree rest read
    cases text with
    | nil => cases read
    | cons c behind =>
        refine List.IsSuffix.trans ?_ (List.suffix_cons c behind)
        cases escape_reads spaced c with
        | code size same => exact (read_code_cuts spaced size).suffix behind tree rest (same behind ▸ read)
        | property negated same => exact (read_property_cuts spaced negated).suffix behind tree rest (same behind ▸ read)
        | edge same => exact (read_edge_cuts spaced).suffix behind tree rest (same behind ▸ read)
        | nothing other same =>
            rw [same] at read
            cases read
            exact List.suffix_refl _
        | refused same =>
            rw [same] at read
            cases read
  splits := by
    intro text tree out read left
    cases text with
    | nil =>
        have mark : readEscape spaced closing = .ok (.literal ')' false, ['$']) := rfl
        rw [List.nil_append, mark] at read
        cases read
        exact absurd left (by decide)
    | cons c behind =>
        rw [List.cons_append] at read
        cases escape_reads spaced c with
        | code size same =>
            rw [same] at read ⊢
            exact .inl ((read_code_cuts spaced size).alone behind tree out read left)
        | property negated same =>
            rw [same] at read ⊢
            exact .inl ((read_property_cuts spaced negated).alone behind tree out read left)
        | edge same =>
            rw [same] at read ⊢
            exact (read_edge_cuts spaced).splits behind tree out read left
        | nothing other same =>
            rw [same] at read ⊢
            cases read
            exact .inl ⟨behind, rfl, rfl⟩
        | refused same =>
            rw [same] at read
            cases read

end PathTemplates.Regex
