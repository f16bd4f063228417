import PathTemplates.Proofs.Branches
import PathTemplates.Proofs.Reach
import PathTemplates.Regex.Meaning

set_option autoImplicit false

/-! No repetition that is read has a least count above its greatest. -/

namespace PathTemplates.Regex

def Tree.Proper : Tree → Prop
  | .repetition least most _ body => (∀ bound ∈ most, least ≤ bound) ∧ body.Proper
  | .group _ _ body => body.Proper
  | .sequence first rest => first.Proper ∧ rest.Proper
  | .choice first rest => first.Proper ∧ rest.Proper
  | _ => True

theorem join_proper (join : Tree → Tree → Tree) (joined : ∀ first rest, first.Proper → rest.Proper → (join first rest).Proper)
    (last : Tree) (others : List Tree) (head : last.Proper) (tail : ∀ other ∈ others, other.Proper) :
    (others.foldl (fun rest other => join other rest) last).Proper := by
  induction others generalizing last with
  | nil => exact head
  | cons other others ih =>
      obtain ⟨next, more⟩ := List.forall_mem_cons.mp tail
      exact ih (join other last) (joined other last next head) more

theorem sequence_of_proper (items : List Tree) (proper : ∀ item ∈ items, item.Proper) : (sequenceOf items).Proper := by
  cases items with
  | nil => trivial
  | cons last others =>
      obtain ⟨head, tail⟩ := List.forall_mem_cons.mp proper
      exact join_proper .sequence (fun _ _ first rest => ⟨first, rest⟩) last others head tail

theorem choice_of_proper (branches : List Tree) (proper : ∀ branch ∈ branches, branch.Proper) : (choiceOf branches).Proper := by
  cases branches with
  | nil => trivial
  | cons last others =>
      obtain ⟨head, tail⟩ := List.forall_mem_cons.mp proper
      exact join_proper .choice (fun _ _ first rest => ⟨first, rest⟩) last others head tail

theorem read_code_proper (spaced : Bool) (size : Nat) (text rest : List Char) (tree : Tree)
    (read : readCode spaced size text = .ok (tree, rest)) : tree.Proper := by
  unfold readCode at read
  split at read
  · split at read
    · split at read
      · cases read
        trivial
      · cases read
    · cases read
  · dsimp only at read
    split at read
    · split at read
      · cases read
        trivial
      · cases read
    · cases read

theorem read_property_proper (spaced negated : Bool) (text rest : List Char) (tree : Tree)
    (read : readProperty spaced negated text = .ok (tree, rest)) : tree.Proper := by
  unfold readProperty at read
  split at read
  · cases read
  · split at read
    · cases read
      trivial
    · cases read
  · cases read
  · cases read
    trivial

theorem read_edge_proper (spaced : Bool) (text rest : List Char) (tree : Tree)
    (read : readEdge spaced text = .ok (tree, rest)) : tree.Proper := by
  unfold readEdge at read
  split at read
  · split at read
    · cases read
    · split at read
      · split at read
        · split at read <;> cases read <;> trivial
        · cases read
      · cases read
        trivial
  · cases read
    trivial

theorem read_escape_proper (spaced : Bool) (text rest : List Char) (tree : Tree)
    (read : readEscape spaced text = .ok (tree, rest)) : tree.Proper := by
  unfold readEscape at read
  split at read
  case h_1 => cases read
  case h_25 =>
    split at read <;> cases read
    trivial
  all_goals first
    | exact read_code_proper spaced _ _ rest tree read
    | exact read_property_proper spaced _ _ rest tree read
    | exact read_edge_proper spaced _ rest tree read
    | (cases read
       trivial)

theorem read_count_proper (spaced : Bool) (text rest : List Char) (least : Nat) (most : Option Nat)
    (read : readCount spaced text = .ok ((least, most), rest)) : ∀ bound ∈ most, least ≤ bound := by
  obtain ⟨⟨number, left⟩, _, later⟩ := (bind_ok _ _ _).mp read
  split at later
  · cases later
    simp
  · unfold readMost at later
    split at later
    · cases later
      simp
    · obtain ⟨⟨other, behind⟩, _, final⟩ := (bind_ok _ _ _).mp later
      split at final
      · split at final
        · rename_i ordered
          cases final
          simpa using ordered
        · cases final
      · cases final
  · cases later

theorem repeat_last_proper (least : Nat) (most : Option Nat) (items result : List Tree) (text rest : List Char)
    (ordered : ∀ bound ∈ most, least ≤ bound) (proper : ∀ item ∈ items, item.Proper)
    (read : repeatLast least most items text = .ok (result, rest)) : ∀ item ∈ result, item.Proper := by
  unfold repeatLast at read
  split at read
  · cases read
  · cases read
  · cases read
  · cases read
    obtain ⟨head, tail⟩ := List.forall_mem_cons.mp proper
    exact List.forall_mem_cons.mpr ⟨⟨ordered, head⟩, tail⟩

theorem read_item_proper (spaced : Bool) (items result : List Tree) (c : Char) (text rest : List Char)
    (proper : ∀ item ∈ items, item.Proper) (read : readItem spaced items c text = .ok (result, rest)) :
    ∀ item ∈ result, item.Proper := by
  unfold readItem at read
  split at read
  · obtain ⟨_, _, nested⟩ := (bind_ok _ _ _).mp read
    obtain ⟨_, _, later⟩ := (bind_ok _ _ _).mp nested
    cases later
    exact List.forall_mem_cons.mpr ⟨trivial, proper⟩
  · exact repeat_last_proper _ _ items result text rest (by simp) proper read
  · exact repeat_last_proper _ _ items result text rest (by simp) proper read
  · exact repeat_last_proper _ _ items result text rest (by simp) proper read
  · obtain ⟨⟨⟨least, most⟩, left⟩, counted, later⟩ := (bind_ok _ _ _).mp read
    exact repeat_last_proper _ _ items result _ rest (read_count_proper spaced text left least most counted) proper later
  · obtain ⟨⟨item, left⟩, escape, later⟩ := (bind_ok _ _ _).mp read
    cases later
    exact List.forall_mem_cons.mpr ⟨read_escape_proper spaced text rest item escape, proper⟩
  all_goals
    cases read
    exact List.forall_mem_cons.mpr ⟨trivial, proper⟩

theorem read_branches_proper (fuel : Nat) (spaced : Bool) (names known : List (List Char)) (branches items : List Tree)
    (text rest : List Char) (tree : Tree) (finished : ∀ branch ∈ branches, branch.Proper) (proper : ∀ item ∈ items, item.Proper)
    (read : readBranches fuel spaced names branches items text = .ok (tree, known, rest)) : tree.Proper := by
  induction fuel generalizing spaced names branches items text tree known rest with
  | zero => cases read
  | succ fuel ih =>
      have ended : (choiceOf (sequenceOf items :: branches)).Proper :=
        choice_of_proper _ (List.forall_mem_cons.mpr ⟨sequence_of_proper items proper, finished⟩)
      cases front (skip spaced text) with
      | none found =>
          rw [readBranches, found] at read
          cases read
          exact ended
      | stop inner found =>
          rw [read_branches_stop _ _ _ _ _ _ _ found] at read
          cases read
          exact ended
      | bar inner found =>
          rw [read_branches_bar _ _ _ _ _ _ _ found] at read
          exact ih _ _ _ _ _ _ _ _ (List.forall_mem_cons.mpr ⟨sequence_of_proper items proper, finished⟩) (by simp) read
      | opens inner found =>
          rw [read_branches_open _ _ _ _ _ _ _ found] at read
          obtain ⟨⟨opening, behind⟩, _, group⟩ := (bind_ok _ _ _).mp read
          unfold readGroup at group
          split at group
          · split at group
            · cases group
            · rename_i change _ _
              have switch : (Tree.flags change).Proper := trivial
              exact ih _ _ _ _ _ _ _ _ finished (List.forall_mem_cons.mpr ⟨switch, proper⟩) group
          · obtain ⟨⟨body, after, left⟩, nested, later⟩ := (bind_ok _ _ _).mp group
            split at later
            · rename_i same
              cases same
              have inside : body.Proper := ih _ _ _ _ _ _ _ _ (List.forall_mem_nil _) (List.forall_mem_nil _) nested
              have grouped (captures : Bool) (change : FlagChange) : (Tree.group captures change body).Proper := inside
              exact ih _ _ _ _ _ _ _ _ finished (List.forall_mem_cons.mpr ⟨grouped _ _, proper⟩) later
            · cases later
      | item c inner found other =>
          rw [read_branches_item _ _ _ _ _ _ _ c found other] at read
          obtain ⟨⟨result, left⟩, item, later⟩ := (bind_ok _ _ _).mp read
          exact ih _ _ _ _ _ _ _ _ finished (read_item_proper spaced items result c inner left proper item) later

theorem of_text_proper (text : List Char) (tree : Tree) (read : Tree.ofText text = .ok tree) : tree.Proper := by
  obtain ⟨⟨expression, names, left⟩, branches, later⟩ := (bind_ok _ _ _).mp read
  split at later
  · rename_i same
    cases same
    split at later
    · cases later
      exact read_branches_proper _ _ _ _ _ _ _ _ _ (by simp) (by simp) branches
    · cases later
  · cases later

theorem pattern_proper (tree : Tree) (modes after : Modes) (pattern : Pattern) (proper : tree.Proper)
    (meant : tree.pattern modes = .ok (pattern, after)) : pattern.Proper := by
  induction tree generalizing modes after pattern with
  | empty =>
      cases meant
      trivial
  | flags change =>
      cases meant
      trivial
  | assertion kind =>
      cases meant
      trivial
  | literal c isByte =>
      obtain ⟨_, _, same⟩ := (bind_ok _ _ _).mp meant
      cases same
      trivial
  | dot =>
      obtain ⟨_, _, same⟩ := (bind_ok _ _ _).mp meant
      cases same
      trivial
  | shorthand kind negated =>
      obtain ⟨_, _, same⟩ := (bind_ok _ _ _).mp meant
      cases same
      trivial
  | property query negated =>
      obtain ⟨_, _, same⟩ := (bind_ok _ _ _).mp meant
      cases same
      trivial
  | bracket negated body =>
      obtain ⟨_, _, same⟩ := (bind_ok _ _ _).mp meant
      cases same
      trivial
  | repetition least most isLazy body ih =>
      obtain ⟨⟨inner, middle⟩, known, same⟩ := (bind_ok _ _ _).mp meant
      cases same
      exact ⟨proper.1, ih _ _ _ proper.2 known⟩
  | group captures change body ih =>
      obtain ⟨⟨inner, middle⟩, known, same⟩ := (bind_ok _ _ _).mp meant
      cases same
      have inside : inner.Proper := ih _ _ _ proper known
      exact inside
  | sequence first rest ihFirst ihRest =>
      obtain ⟨⟨left, middle⟩, known, later⟩ := (bind_ok _ _ _).mp meant
      obtain ⟨⟨right, final⟩, knownRest, same⟩ := (bind_ok _ _ _).mp later
      cases same
      exact ⟨ihFirst _ _ _ proper.1 known, ihRest _ _ _ proper.2 knownRest⟩
  | choice first rest ihFirst ihRest =>
      obtain ⟨⟨left, middle⟩, known, later⟩ := (bind_ok _ _ _).mp meant
      obtain ⟨⟨right, final⟩, knownRest, same⟩ := (bind_ok _ _ _).mp later
      cases same
      exact ⟨ihFirst _ _ _ proper.1 known, ihRest _ _ _ proper.2 knownRest⟩

end PathTemplates.Regex
