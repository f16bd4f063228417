import PathTemplates.Proofs.Redeclaring

set_option autoImplicit false

/-!
Templates written back. What the segments of a template display is the template without its spare slashes, and a template is
compiled by its tokens alone: one with the same tokens has the same segments, or is refused for the same reason.
-/

namespace PathTemplates

def displayed (segments : List Segment) : String := "/".intercalate (segments.map Segment.display)

def Declaration.retold (template : String) (declaration : Declaration) : Declaration := { declaration with template := template }

def Route.retold (template : String) (route : Route) : Route := { route with declaration := route.declaration.retold template }

-- What comes of compiling, told of another template.
def retoldOutcome (template : String) (outcome : Except RegistrationError Route) : Except RegistrationError Route :=
  (outcome.map (Route.retold template)).mapError (RegistrationError.retold template)

-- The shape of compiled segments: what they display, runs of literals as long as they can be, and a glob with nothing but literals
-- behind it.
structure Canonical (route : Route) : Prop where
  display : displayed route.segments = "/".intercalate (Text.components route.template)
  merged : ∀ first second, ¬ [.literal first, .literal second] <:+: route.segments
  literals : ∀ text, .literal text ∈ route.segments → ∃ tokens, tokens ≠ [] ∧ text = "/".intercalate tokens ∧
    ∀ token ∈ tokens, Plain token ∧ token.toList.head? ≠ some ':' ∧ token.toList.head? ≠ some '*'
  distinct : (route.placeholders.map (·.name)).Nodup
  globs : ∀ before glob after, route.segments = before ++ .slot glob :: after → glob.kind = .glob →
    (∀ other, .slot other ∈ before → other.kind = .dynamic) ∧ (after = [] ∨ ∃ text, after = [.literal text])

section Text

theorem slashed_same (a b : List String) (same : Text.slashed a = Text.slashed b) : "/".intercalate a = "/".intercalate b := by
  cases a with
  | nil =>
      have none : b = [] := (Text.slashed_empty_iff b).mp same.symm
      rw [none]
  | cons first rest =>
      cases b with
      | nil =>
          have none : first :: rest = [] := (Text.slashed_empty_iff _).mp same
          rw [none]
      | cons other later =>
          rw [Text.slashed_eq_intercalate, Text.slashed_eq_intercalate] at same
          exact (String.append_right_inj "/").mp same

theorem components_intercalate (parts : List String) (plain : ∀ part ∈ parts, Plain part) :
    Text.components ("/".intercalate parts) = parts := by
  induction parts with
  | nil => rfl
  | cons part rest ih =>
      obtain ⟨head, tail⟩ := List.forall_mem_cons.mp plain
      cases rest with
      | nil => rw [String.intercalate_singleton, plain_components part head]
      | cons next later =>
          rw [String.intercalate_cons_cons, Text.components_append, ih tail, plain_components part head, List.singleton_append]

theorem text_of_text (text : String) : (Token.ofText text).text = text := by
  cases read : Token.ofText text with
  | literal other => exact ((Token.of_text_literal_iff text other).mp read).1
  | placeholder kind name => exact ((Token.of_text_placeholder_iff text kind name).mp read).symm

theorem token_texts (template : String) : (Token.ofTemplate template).map Token.text = Text.components template := by
  rw [Token.ofTemplate, List.map_map]
  exact (List.map_congr_left fun text _ => text_of_text text).trans (List.map_id _)

theorem literal_unmarked (template text : String) (member : .literal text ∈ Token.ofTemplate template) :
    text.toList.head? ≠ some ':' ∧ text.toList.head? ≠ some '*' := by
  obtain ⟨component, _, same⟩ := List.mem_map.mp member
  obtain ⟨rfl, unmarked⟩ := (Token.of_text_literal_iff component text).mp same
  exact unmarked

end Text

section Compiled

theorem displayed_tokens (segment : Segment) (tight : Tight segment) :
    Text.slashed [segment.display] = Text.slashed (segment.tokens.map Token.text) := by
  cases segment with
  | literal text =>
      have whole : Text.components text = Text.pieces text := tight
      have texts : (Segment.tokens (.literal text)).map Token.text = Text.pieces text := by
        rw [Segment.tokens, whole, List.map_map]
        exact List.map_id _
      rw [texts, Text.slashed_pieces]
      rfl
  | slot placeholder =>
      obtain ⟨kind, name, requirement, presence⟩ := placeholder
      cases kind <;> rfl

theorem displayed_template (route : Route) (keeps : Compiled route) :
    displayed route.segments = "/".intercalate (Text.components route.template) := by
  apply slashed_same
  have texts : Text.components route.template = route.segments.flatMap fun segment => segment.tokens.map Token.text := by
    have tokens : tokensOf route.segments = Token.ofTemplate route.template := keeps.tokens
    rw [← token_texts, ← tokens, tokensOf, List.map_flatMap]
  rw [texts, ← List.flatMap_singleton' (route.segments.map Segment.display), List.flatMap_map]
  apply Text.slashed_flat_map
  intro segment member
  exact displayed_tokens segment (keeps.tight segment member)

theorem merged_cons_literal (text : String) (segments : List Segment)
    (merged : ∀ first second, ¬ [.literal first, .literal second] <:+: segments) (first second : String) :
    ¬ [.literal first, .literal second] <:+: Template.consLiteral text segments := by
  intro inside
  cases segments with
  | nil => simp [Template.consLiteral, List.infix_cons_iff] at inside
  | cons segment rest =>
      cases segment with
      | literal next =>
          rcases List.infix_cons_iff.mp inside with front | later
          · have behind := (List.cons_prefix_cons.mp front).2
            exact merged next second (List.cons_prefix_cons.mpr ⟨rfl, behind⟩).isInfix
          · exact merged first second (List.infix_cons later)
      | slot placeholder =>
          rcases List.infix_cons_iff.mp inside with front | later
          · simp [List.cons_prefix_cons] at front
          · exact merged first second later

theorem placed_merged (declaration : Declaration) (explicit : Bool) (tokens : List Token) (segments : List Segment)
    (placed : Placed declaration explicit tokens segments) :
    ∀ first second, ¬ [.literal first, .literal second] <:+: segments := by
  induction placed with
  | nil => simp
  | literal text rest segments _ ih => exact merged_cons_literal text segments ih
  | slot placeholder rest segments _ _ ih =>
      intro first second
      simp [List.infix_cons_iff, ih first second]

theorem literal_tokens (route : Route) (keeps : Compiled route) (text : String) (member : .literal text ∈ route.segments) :
    ∃ tokens, tokens ≠ [] ∧ text = "/".intercalate tokens ∧
      ∀ token ∈ tokens, Plain token ∧ token.toList.head? ≠ some ':' ∧ token.toList.head? ≠ some '*' := by
  have whole : Text.components text = Text.pieces text := keeps.tight _ member
  refine ⟨Text.components text, ?_, ?_, ?_⟩
  · rw [whole]
    exact Text.pieces_not_nil text
  · rw [whole, Text.intercalate_pieces]
  · intro token inside
    have among : .literal token ∈ tokensOf route.segments :=
      List.mem_flatMap.mpr ⟨_, member, List.mem_map.mpr ⟨token, inside, rfl⟩⟩
    rw [keeps.tokens] at among
    exact ⟨component_plain text token inside, literal_unmarked route.template token among⟩

theorem slot_token (segments : List Segment) (placeholder : Placeholder) (member : .slot placeholder ∈ segments) :
    .placeholder placeholder.kind placeholder.name ∈ tokensOf segments :=
  List.mem_flatMap.mpr ⟨_, member, List.mem_singleton_self _⟩

-- No glob stands beside a glob, and no dynamic placeholder behind it.
theorem glob_alone_and_last (tokens before after : List Token) (glob : String)
    (split : tokens = before ++ .placeholder .glob glob :: after) (oneGlob : (globsOf tokens).length ≤ 1)
    (globLast : ∀ before glob after, tokens = before ++ .placeholder .glob glob :: after →
      ∀ name, .placeholder .dynamic name ∉ after) :
    (∀ kind name, .placeholder kind name ∈ before → kind = .dynamic) ∧ ∀ kind name, .placeholder kind name ∉ after := by
  have apart := (glob_last_iff tokens).mp ⟨oneGlob, globLast⟩
  rw [split] at apart
  obtain ⟨_, behind, across⟩ := List.pairwise_append.mp apart
  constructor
  · intro kind name member
    cases kind with
    | dynamic => rfl
    | glob => exact absurd ⟨.glob, rfl⟩ (across _ member _ List.mem_cons_self name glob rfl)
  · intro kind name member
    exact (List.pairwise_cons.mp behind).1 _ member glob name rfl ⟨kind, rfl⟩

theorem merged_literals (segments : List Segment) (merged : ∀ first second, ¬ [.literal first, .literal second] <:+: segments)
    (literal : ∀ placeholder, .slot placeholder ∉ segments) : segments = [] ∨ ∃ text, segments = [.literal text] := by
  cases segments with
  | nil => exact .inl rfl
  | cons first rest =>
      cases first with
      | slot placeholder => exact absurd List.mem_cons_self (literal placeholder)
      | literal text =>
          cases rest with
          | nil => exact .inr ⟨text, rfl⟩
          | cons second later =>
              cases second with
              | slot placeholder => exact absurd (List.mem_cons_of_mem _ List.mem_cons_self) (literal placeholder)
              | literal next => exact absurd (List.prefix_append [.literal text, .literal next] later).isInfix (merged text next)

theorem of_declaration_canonical (declaration : Declaration) (explicit : Bool) (order : Nat) (name : Option String)
    (route : Route) (compiled : Route.ofDeclaration declaration explicit order name = .ok route) : Canonical route := by
  obtain ⟨own, keeps⟩ := of_declaration_compiled declaration explicit order name route compiled
  have grammatical := (of_declaration_accepts_iff declaration explicit order name).mp ⟨route, compiled⟩
  obtain ⟨segments, outcome, same⟩ := (of_declaration_ok_iff declaration explicit order name route).mp compiled
  have merged : ∀ first second, ¬ [.literal first, .literal second] <:+: route.segments := by
    rw [same]
    exact placed_merged declaration explicit _ segments (segments_placed declaration explicit segments outcome)
  exact {
    display := displayed_template route keeps
    merged := merged
    literals := literal_tokens route keeps
    distinct := by
      rw [placeholder_names]
      exact keeps.distinct
    globs := by
      intro before glob after split kind
      have tokens : declaration.tokens = tokensOf before ++ .placeholder .glob glob.name :: tokensOf after := by
        rw [← own, ← keeps.tokens, split, tokensOf, List.flatMap_append, List.flatMap_cons, Segment.tokens, kind]
        rfl
      obtain ⟨first, last⟩ :=
        glob_alone_and_last declaration.tokens _ _ glob.name tokens grammatical.oneGlob grammatical.globLast
      constructor
      · intro other member
        exact first other.kind other.name (slot_token before other member)
      · apply merged_literals after
        · intro a b inside
          apply merged a b
          rw [split]
          exact inside.trans ((List.suffix_cons _ after).trans (List.suffix_append before _)).isInfix
        · intro other member
          exact last other.kind other.name (slot_token after other member) }

end Compiled

-- Where the requirements and defaults are the same, so are the segments.
theorem of_declaration_same_tokens (declaration : Declaration) (explicit : Bool) (order : Nat) (name : Option String)
    (template : String) (same : Text.components template = Text.components declaration.template) :
    Route.ofDeclaration (declaration.retold template) explicit order name =
      retoldOutcome template (Route.ofDeclaration declaration explicit order name) := by
  have tokens : (declaration.retold template).tokens = declaration.tokens := congrArg (List.map Token.ofText) same
  rw [of_declaration_retold declaration (declaration.retold template) explicit explicit rfl tokens, retoldOutcome]
  apply congrArg
  cases outcome : Route.ofDeclaration declaration explicit order name with
  | error error => rfl
  | ok route =>
      obtain ⟨segments, compiled, whole⟩ := (of_declaration_ok_iff declaration explicit order name route).mp outcome
      have unchanged : segments.map (Segment.under (declaration.retold template) explicit) = segments :=
        (List.map_congr_left (segments_under declaration explicit segments compiled)).trans (List.map_id _)
      rw [whole]
      exact congrArg (fun segments => Except.ok (Route.mk (declaration.retold template) name order segments _)) unchanged

-- Compiled segments stand for the tokens of their template.
theorem same_segments_same_components (declaration : Declaration) (explicit : Bool) (order : Nat) (name : Option String)
    (route other : Route) (template : String) (compiled : Route.ofDeclaration declaration explicit order name = .ok route)
    (again : Route.ofDeclaration (declaration.retold template) explicit order name = .ok other)
    (same : other.segments = route.segments) : Text.components template = Text.components declaration.template := by
  obtain ⟨own, keeps⟩ := of_declaration_compiled declaration explicit order name route compiled
  obtain ⟨otherOwn, otherKeeps⟩ := of_declaration_compiled (declaration.retold template) explicit order name other again
  have tokens : Token.ofTemplate template = Token.ofTemplate declaration.template := by
    have left := otherKeeps.tokens
    have right := keeps.tokens
    rw [otherOwn] at left
    rw [own] at right
    exact left.symm.trans ((congrArg tokensOf same).trans right)
  rw [← token_texts, ← token_texts, tokens]

theorem templates_are_canonical (declaration : Declaration) (explicit : Bool) (order : Nat) (name : Option String) :
    (∀ route, Route.ofDeclaration declaration explicit order name = .ok route →
      route.declaration = declaration ∧ Canonical route ∧
        Route.ofDeclaration (declaration.retold (displayed route.segments)) explicit order name =
          .ok (route.retold (displayed route.segments)) ∧
        ∀ template, (∃ other, Route.ofDeclaration (declaration.retold template) explicit order name = .ok other ∧
            other.segments = route.segments) ↔ Text.components template = Text.components declaration.template) ∧
      ∀ template, Text.components template = Text.components declaration.template →
        Route.ofDeclaration (declaration.retold template) explicit order name =
          retoldOutcome template (Route.ofDeclaration declaration explicit order name) := by
  have retold := fun template same => of_declaration_same_tokens declaration explicit order name template same
  refine ⟨?_, retold⟩
  intro route compiled
  have own := (of_declaration_compiled declaration explicit order name route compiled).1
  have canonical := of_declaration_canonical declaration explicit order name route compiled
  refine ⟨own, canonical, ?_, ?_⟩
  · have components : Text.components (displayed route.segments) = Text.components declaration.template := by
      rw [canonical.display, components_intercalate _ (component_plain route.template)]
      exact congrArg (fun declaration => Text.components declaration.template) own
    rw [retold _ components, compiled]
    rfl
  · intro template
    constructor
    · intro ⟨other, again, same⟩
      exact same_segments_same_components declaration explicit order name route other template compiled again same
    · intro same
      refine ⟨route.retold template, ?_, rfl⟩
      rw [retold template same, compiled]
      rfl

-- Spare slashes, runs of literals, and a glob before the last of them.
def folio : Declaration where
  template := "/a//b/:page/c/*rest//d/e/"
  requirements := .ofList [("page", "[0-9]+")]

theorem templates_are_canonical_of_folio :
    ∃ route, Route.ofDeclaration folio false 0 none = .ok route ∧ displayed route.segments = "a/b/:page/c/*rest/d/e" ∧
      route.segments.length = 5 ∧ Canonical route ∧
      Route.ofDeclaration (folio.retold "a/b/:page/c/*rest/d/e") false 0 none = .ok (route.retold "a/b/:page/c/*rest/d/e") ∧
      Route.ofDeclaration ((Declaration.mk "x/*a/:b" .empty .empty).retold "//x//*a/:b") false 0 none =
        .error (.globBeforeDynamic "//x//*a/:b" "a" "b") :=
  ⟨_, rfl, rfl, rfl, ((templates_are_canonical folio false 0 none).1 _ rfl).2.1,
    ((templates_are_canonical folio false 0 none).1 _ rfl).2.2.1,
    (templates_are_canonical (.mk "x/*a/:b" .empty .empty) false 0 none).2 "//x//*a/:b" rfl⟩

end PathTemplates
