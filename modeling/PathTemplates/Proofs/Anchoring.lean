import PathTemplates.Proofs.Proper
import PathTemplates.Requirement

set_option autoImplicit false

/-!
Requirements that are given as patterns. Between the anchors a pattern is read as it is read alone, unless it closes the group that
is put around it; so it is spanned by a value that is admitted, or it is no regular expression by itself.
-/

namespace PathTemplates.Regex

-- A text that is a regular expression by itself, however much room its automata take, and what it means.
def Expression (source : String) (pattern : Pattern) : Prop :=
  ∃ tree modes, Tree.ofText source.toList = .ok tree ∧ tree.pattern {} = .ok (pattern, modes)

theorem of_source_ok (source : String) (pattern : Pattern) :
    Pattern.ofSource source = .ok pattern ↔ Expression source pattern ∧ pattern.fits = true := by
  unfold Pattern.ofSource
  constructor
  · intro read
    obtain ⟨tree, known, later⟩ := (bind_ok _ _ _).mp read
    obtain ⟨⟨meant, modes⟩, shape, final⟩ := (bind_ok _ _ _).mp later
    dsimp only at final
    by_cases fits : meant.fits = true
    · rw [if_pos fits] at final
      cases final
      exact ⟨⟨tree, modes, known, shape⟩, fits⟩
    · rw [if_neg fits] at final
      cases final
  · intro ⟨⟨tree, modes, known, shape⟩, fits⟩
    exact (bind_ok _ _ _).mpr ⟨tree, known, (bind_ok _ _ _).mpr ⟨_, shape, if_pos fits⟩⟩

def Tree.anchored (body : Tree) : Tree :=
  .sequence (.assertion .lineStart) (.sequence (.group false [] body) (.assertion .lineStop))

theorem open_plain_flags (names : List (List Char)) (text : List Char) :
    openGroup false names ('?' :: ':' :: text) = .ok (.flags [], text) := rfl

-- Between the anchors, the text is read to a parenthesis that closes their group, and then what is behind it.
theorem read_anchored (fuel : Nat) (text left : List Char) (tree : Tree) (known : List (List Char))
    (read : readBranches fuel false [] [] [] ('^' :: '(' :: '?' :: ':' :: text) = .ok (tree, known, left)) :
    ∃ less body names rest, readBranches less false [] [] [] text = .ok (body, names, ')' :: rest) ∧
      readBranches less false names [] [.group false [] body, .assertion .lineStart] rest = .ok (tree, known, left) := by
  cases fuel with
  | zero => cases read
  | succ fuel =>
      rw [read_branches_item fuel false [] [] [] _ _ '^' rfl (by decide)] at read
      obtain ⟨⟨items, behind⟩, item, later⟩ := (bind_ok _ _ _).mp read
      cases item
      cases fuel with
      | zero => cases later
      | succ less =>
          dsimp only at later
          rw [read_branches_open less false [] [] _ _ ('?' :: ':' :: text) rfl, open_plain_flags] at later
          obtain ⟨_, opened, group⟩ := (bind_ok _ _ _).mp later
          cases opened
          obtain ⟨⟨body, names, after⟩, nested, final⟩ := (bind_ok _ _ _).mp group
          split at final
          · rename_i same
            cases same
            exact ⟨less, body, names, _, nested, final⟩
          · cases final

theorem read_stop (fuel : Nat) (names known : List (List Char)) (items : List Tree) (left : List Char) (tree : Tree)
    (read : readBranches fuel false names [] items ['$'] = .ok (tree, known, left)) :
    tree = sequenceOf (.assertion .lineStop :: items) := by
  cases fuel with
  | zero => cases read
  | succ fuel =>
      rw [read_branches_item fuel false _ _ _ _ _ '$' rfl (by decide)] at read
      obtain ⟨⟨items, behind⟩, item, later⟩ := (bind_ok _ _ _).mp read
      cases item
      cases fuel with
      | zero => cases later
      | succ fuel =>
          cases later
          rfl

theorem of_text_ok (text : List Char) (tree : Tree) :
    Tree.ofText text = .ok tree ↔
      ∃ names, readBranches text.length.succ false [] [] [] text = .ok (tree, names, []) ∧ tree.depth .none ≤ 250 := by
  unfold Tree.ofText
  rw [bind_ok]
  constructor
  · intro ⟨⟨expression, names, left⟩, branches, later⟩
    split at later
    · rename_i same
      cases same
      split at later
      · rename_i shallow
        cases later
        exact ⟨names, branches, shallow⟩
      · cases later
    · cases later
  · intro ⟨names, branches, shallow⟩
    exact ⟨_, branches, if_pos shallow⟩

theorem anchored_tree (source : List Char) (tree : Tree)
    (read : Tree.ofText ('^' :: '(' :: '?' :: ':' :: (source ++ closing)) = .ok tree) :
    (∃ body, Tree.ofText source = .ok body ∧ tree = body.anchored) ∨ Tree.ofText source = .error .unopenedGroup := by
  obtain ⟨known, whole, shallow⟩ := (of_text_ok _ _).mp read
  obtain ⟨less, body, names, rest, inner, outer⟩ := read_anchored _ _ _ _ _ whole
  have behind := read_branches_suffix _ _ _ _ _ _ _ _ _ inner
  -- The text ends with the mark of the end, which is no parenthesis.
  have room : closing.length ≤ (')' :: rest).length := by
    cases rest with
    | nil =>
        obtain ⟨front, same⟩ := behind
        have last := congrArg List.getLast? same
        simp [closing] at last
    | cons c more => simp [closing]
  obtain ⟨left, alone, split⟩ := closes less source.length.succ false [] names [] [] source (')' :: rest) body
    (Nat.lt_succ_self _) inner room
  cases left with
  | nil =>
      obtain ⟨_, stop⟩ := List.cons.inj split
      rw [stop] at outer
      have same := read_stop _ _ _ _ _ _ outer
      have bound : body.depth .none ≤ 250 := by
        have deeper : body.depth .none ≤ body.anchored.depth .none := by
          simp only [Tree.anchored, Tree.depth]
          omega
        rw [same] at shallow
        exact deeper.trans shallow
      exact .inl ⟨body, (of_text_ok _ _).mpr ⟨names, alone, bound⟩, same⟩
  | cons c more =>
      refine .inr ?_
      unfold Tree.ofText
      rw [alone]
      rfl

theorem anchored_pattern (body : Tree) (modes : Modes) (pattern : Pattern)
    (meant : body.anchored.pattern {} = .ok (pattern, modes)) :
    ∃ inner after, body.pattern {} = .ok (inner, after) ∧ pattern = Pattern.whole (.group false inner) := by
  obtain ⟨_, start, later⟩ := (bind_ok _ _ _).mp meant
  cases start
  obtain ⟨_, rest, same⟩ := (bind_ok _ _ _).mp later
  obtain ⟨_, group, stops⟩ := (bind_ok _ _ _).mp rest
  obtain ⟨⟨inner, after⟩, known, grouped⟩ := (bind_ok _ _ _).mp group
  cases grouped
  cases stops
  cases same
  exact ⟨inner, after, known, rfl⟩

end PathTemplates.Regex

namespace PathTemplates

open Regex (Expression Spans Tree)

theorem explicit_requirement_spans (source : String) (requirement : Requirement)
    (accepted : Requirement.ofPattern? source = some requirement) :
    (∃ pattern, Expression source pattern ∧
      ∀ value, requirement.admits value = true ↔ Spans value.toList.toArray pattern 0 value.toList.length) ∨
      Tree.ofText source.toList = .error .unopenedGroup := by
  unfold Requirement.ofPattern? at accepted
  split at accepted
  · rename_i pattern meant
    cases accepted
    obtain ⟨⟨tree, modes, read, known⟩, _⟩ := (Regex.of_source_ok _ _).mp meant
    have chars : (Requirement.anchored source).toList = '^' :: '(' :: '?' :: ':' :: (source.toList ++ Regex.closing) := by
      simp [Requirement.anchored, String.toList_append, Regex.closing]
    rw [chars] at read
    rcases Regex.anchored_tree source.toList tree read with ⟨body, alone, rfl⟩ | unopened
    · obtain ⟨inner, after, innerMeant, shape⟩ := Regex.anchored_pattern body modes pattern known
      have proper := Regex.pattern_proper body {} after inner (Regex.of_text_proper _ _ alone) innerMeant
      refine .inl ⟨inner, ⟨body, after, alone, innerMeant⟩, fun value => ?_⟩
      have admits : Requirement.admits ⟨Requirement.anchored source, pattern, true⟩ value =
          (Regex.Pattern.whole (.group false inner)).matchesIn value := by
        rw [← shape]
        rfl
      rw [admits]
      exact Regex.matches_whole_iff (.group false inner) proper value
    · exact .inr unopened
  · cases accepted

-- Each alternative has to reach from one end of the value to the other.
def alternatives : Requirement where
  source := "^(?:ab|b{2,})$"
  pattern := .whole (.group false
    (.alt (.cat (.one (.single 'a')) (.one (.single 'b'))) (.many 2 none (.one (.single 'b')))))
  explicit := true

theorem explicit_requirement_spans_alternatives :
    Requirement.ofPattern? "ab|b{2,}" = some alternatives ∧
      ((∃ pattern, Expression "ab|b{2,}" pattern ∧
        ∀ value, alternatives.admits value = true ↔ Spans value.toList.toArray pattern 0 value.toList.length) ∨
        Tree.ofText "ab|b{2,}".toList = .error .unopenedGroup) ∧
      alternatives.admits "bbb" = true ∧ alternatives.admits "abb" = false :=
  ⟨by decide +kernel, explicit_requirement_spans "ab|b{2,}" alternatives (by decide +kernel), by decide +kernel,
    by decide +kernel⟩

-- Two groups of which the anchors are a part: one holds at the start of a value only, the other at its end.
def halves : Requirement where
  source := "^(?:a)|(?:b)$"
  pattern := .alt (.cat (.look .textStart) (.group false (.one (.single 'a'))))
    (.cat (.group false (.one (.single 'b'))) (.look .textStop))
  explicit := true

theorem explicit_requirement_halves :
    Requirement.ofPattern? "a)|(?:b" = some halves ∧ halves.admits "ax" = true ∧ halves.admits "xb" = true ∧
      ∀ pattern, ¬ Expression "a)|(?:b" pattern := by
  refine ⟨by decide +kernel, by decide +kernel, by decide +kernel, fun pattern expression => ?_⟩
  obtain ⟨tree, _, read, _⟩ := expression
  have alone : Tree.ofText "a)|(?:b".toList = .error .unopenedGroup := by decide +kernel
  rw [alone] at read
  cases read

end PathTemplates
