import PathTemplates.Proofs.Compile
import PathTemplates.Proofs.Pieces

set_option autoImplicit false

/-!
Segments and the tokens they stand for. A segment of literals stands for its components, so that the segments of a template
stand for the tokens of it, each once and in order.
-/

namespace PathTemplates

def Segment.tokens : Segment → List Token
  | .literal text => (Text.components text).map .literal
  | .slot placeholder => [.placeholder placeholder.kind placeholder.name]

def tokensOf (segments : List Segment) : List Token := segments.flatMap Segment.tokens

def Plain (text : String) : Prop := text ≠ "" ∧ '/' ∉ text.toList

-- A literal without a slash at an end or a second one behind a slash.
def Tight : Segment → Prop
  | .literal text => Text.components text = Text.pieces text
  | .slot _ => True

theorem component_plain (text component : String) (member : component ∈ Text.components text) : Plain component := by
  obtain ⟨piece, named⟩ := (Text.component_iff text component).mp member
  exact ⟨named, Text.piece_without_slash text component piece⟩

theorem literal_component (template text : String) (member : .literal text ∈ Token.ofTemplate template) :
    text ∈ Text.components template := by
  obtain ⟨component, inside, same⟩ := List.mem_map.mp member
  obtain ⟨rfl, _⟩ := (Token.of_text_literal_iff component text).mp same
  exact inside

theorem literal_plain (template text : String) (member : .literal text ∈ Token.ofTemplate template) : Plain text :=
  component_plain template text (literal_component template text member)

theorem plain_components (text : String) (plain : Plain text) : Text.components text = [text] :=
  Text.components_single text plain.2 plain.1

theorem plain_tight (text : String) (plain : Plain text) : Tight (.literal text) := by
  have alone : Text.components text = [text] := plain_components text plain
  exact alone.trans (Text.pieces_single text plain.2).symm

theorem tokens_cons_literal (text : String) (segments : List Segment) (plain : Plain text) :
    tokensOf (Template.consLiteral text segments) = .literal text :: tokensOf segments := by
  have alone : Segment.tokens (.literal text) = [.literal text] := by
    rw [Segment.tokens, plain_components text plain, List.map_singleton]
  cases segments with
  | nil => simp [Template.consLiteral, tokensOf, alone]
  | cons first rest =>
      cases first with
      | literal next =>
          have joined : Segment.tokens (.literal (text ++ "/" ++ next)) = .literal text :: Segment.tokens (.literal next) := by
            simp only [Segment.tokens, Text.components_append, plain_components text plain, List.singleton_append,
              List.map_cons]
          simp [Template.consLiteral, tokensOf, joined]
      | slot placeholder => simp [Template.consLiteral, tokensOf, alone]

theorem tight_cons_literal (text : String) (segments : List Segment) (plain : Plain text)
    (tight : ∀ segment ∈ segments, Tight segment) : ∀ segment ∈ Template.consLiteral text segments, Tight segment := by
  cases segments with
  | nil => simpa [Template.consLiteral] using plain_tight text plain
  | cons first rest =>
      cases first with
      | literal next =>
          obtain ⟨head, tail⟩ := List.forall_mem_cons.mp tight
          have joined : Tight (.literal (text ++ "/" ++ next)) := by
            have alone : Text.components text = Text.pieces text := plain_tight text plain
            have other : Text.components next = Text.pieces next := head
            change Text.components _ = Text.pieces _
            rw [Text.components_append, Text.pieces_append, alone, other]
          exact List.forall_mem_cons.mpr ⟨joined, tail⟩
      | slot placeholder => exact List.forall_mem_cons.mpr ⟨plain_tight text plain, tight⟩

theorem placed_tokens (declaration : Declaration) (explicit : Bool) (tokens : List Token) (segments : List Segment)
    (placed : Placed declaration explicit tokens segments) (plain : ∀ text, .literal text ∈ tokens → Plain text) :
    tokensOf segments = tokens := by
  induction placed with
  | nil => rfl
  | literal text rest segments _ ih =>
      rw [tokens_cons_literal text segments (plain text List.mem_cons_self),
        ih fun other member => plain other (List.mem_cons_of_mem _ member)]
  | slot first rest segments _ _ ih =>
      have later := ih fun other member => plain other (List.mem_cons_of_mem _ member)
      exact congrArg (Token.placeholder first.kind first.name :: ·) later

theorem placed_tight (declaration : Declaration) (explicit : Bool) (tokens : List Token) (segments : List Segment)
    (placed : Placed declaration explicit tokens segments) (plain : ∀ text, .literal text ∈ tokens → Plain text) :
    ∀ segment ∈ segments, Tight segment := by
  induction placed with
  | nil => simp
  | literal text rest segments _ ih =>
      apply tight_cons_literal text segments (plain text List.mem_cons_self)
      exact ih fun other member => plain other (List.mem_cons_of_mem _ member)
  | slot first rest segments _ _ ih =>
      have later := ih fun other member => plain other (List.mem_cons_of_mem _ member)
      exact List.forall_mem_cons.mpr ⟨trivial, later⟩

theorem mem_placeholders_iff (route : Route) (placeholder : Placeholder) :
    placeholder ∈ route.placeholders ↔ .slot placeholder ∈ route.segments := by
  constructor
  · intro member
    obtain ⟨segment, inside, slot⟩ := List.mem_filterMap.mp member
    cases segment with
    | literal text => cases slot
    | slot found =>
        cases slot
        exact inside
  · intro inside
    exact List.mem_filterMap.mpr ⟨_, inside, rfl⟩

theorem placeholder_names (route : Route) : route.placeholders.map (·.name) = route.segments.filterMap (·.name?) := by
  rw [Route.placeholders, List.map_filterMap]
  rfl

-- What a compiled route keeps of its template.
structure Compiled (route : Route) : Prop where
  tokens : tokensOf route.segments = route.declaration.tokens
  tight : ∀ segment ∈ route.segments, Tight segment
  distinct : (route.segments.filterMap (·.name?)).Nodup

theorem of_declaration_compiled (declaration : Declaration) (explicit : Bool) (order : Nat) (name : Option String)
    (route : Route) (compiled : Route.ofDeclaration declaration explicit order name = .ok route) :
    route.declaration = declaration ∧ Compiled route := by
  have grammatical : Grammatical declaration :=
    (of_declaration_accepts_iff declaration explicit order name).mp ⟨route, compiled⟩
  obtain ⟨segments, outcome, same⟩ := (of_declaration_ok_iff declaration explicit order name route).mp compiled
  have placed : Placed declaration explicit declaration.tokens segments := segments_placed declaration explicit segments outcome
  have plain (text : String) (member : .literal text ∈ declaration.tokens) : Plain text :=
    literal_plain declaration.template text member
  have names : segments.filterMap (·.name?) = namesOf declaration.tokens :=
    placed_names declaration explicit declaration.tokens segments placed
  subst same
  refine ⟨rfl, ?_⟩
  exact {
    tokens := placed_tokens declaration explicit declaration.tokens segments placed plain
    tight := placed_tight declaration explicit declaration.tokens segments placed plain
    distinct := by rw [names]; exact grammatical.distinct }

theorem token_iff_placeholder (route : Route) (keeps : Compiled route) (kind : PlaceholderKind) (name : String) :
    .placeholder kind name ∈ route.declaration.tokens ↔
      ∃ placeholder ∈ route.placeholders, placeholder.kind = kind ∧ placeholder.name = name := by
  rw [← keeps.tokens]
  constructor
  · intro token
    obtain ⟨segment, inside, same⟩ := List.mem_flatMap.mp token
    cases segment with
    | literal text => simp [Segment.tokens] at same
    | slot placeholder =>
        cases List.mem_singleton.mp same
        exact ⟨placeholder, (mem_placeholders_iff route placeholder).mpr inside, rfl, rfl⟩
  · rintro ⟨placeholder, member, rfl, rfl⟩
    exact List.mem_flatMap.mpr ⟨_, (mem_placeholders_iff route placeholder).mp member, List.mem_singleton_self _⟩

theorem placeholder_of_name (route : Route) (keeps : Compiled route) (a b : Placeholder) (first : a ∈ route.placeholders)
    (second : b ∈ route.placeholders) (same : a.name = b.name) : a = b := by
  have distinct : (route.placeholders.map (·.name)).Nodup := by
    rw [placeholder_names]
    exact keeps.distinct
  exact List.inj_on_of_nodup_map distinct first second same

end PathTemplates
