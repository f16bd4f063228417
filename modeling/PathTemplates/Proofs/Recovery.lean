import PathTemplates.Proofs.Decoding
import PathTemplates.Proofs.Derived
import PathTemplates.Proofs.Outcome

set_option autoImplicit false

/-!
Values recovered from a path. Where every placeholder stands for one component, the components of a path are the kept tokens one by
one, so that the path tells how many are kept and, as an encoding can be read back, with which values. What is not kept has
its default.
-/

namespace PathTemplates

-- A route all of whose placeholders stand for one component each.
def Componentwise (route : Route) : Prop :=
  ∀ placeholder ∈ route.placeholders, placeholder.kind = .dynamic ∧
    ∀ value, placeholder.requirement.admits value = true → '/' ∉ value.toList

theorem components_slashed (text : String) (parts : List String) (plain : ∀ part ∈ parts, Plain part) :
    Text.components (text ++ Text.slashed parts) = Text.components text ++ parts := by
  induction parts generalizing text with
  | nil => simp [Text.slashed]
  | cons part rest ih =>
      obtain ⟨head, tail⟩ := List.forall_mem_cons.mp plain
      have split : text ++ Text.slashed (part :: rest) = text ++ "/" ++ part ++ Text.slashed rest := by
        simp [Text.slashed_cons, String.append_assoc]
      rw [split, ih _ tail, Text.components_append, plain_components part head, List.append_assoc, List.singleton_append]

-- Functions that write as much for each element as the other are told apart by what they write for one of them.
theorem flat_map_same {α β : Type} (list : List α) (f g : α → List β) (lengths : ∀ x ∈ list, (f x).length = (g x).length)
    (same : list.flatMap f = list.flatMap g) : ∀ x ∈ list, f x = g x := by
  induction list with
  | nil => simp
  | cons x rest ih =>
      obtain ⟨length, lengths⟩ := List.forall_mem_cons.mp lengths
      obtain ⟨head, tail⟩ := List.append_inj same length
      exact List.forall_mem_cons.mpr ⟨head, ih lengths tail⟩

theorem tight_tokens (segment : Segment) (tight : Tight segment) : segment.tokens ≠ [] := by
  cases segment with
  | literal text =>
      have whole : Text.components text = Text.pieces text := tight
      intro none
      rw [Segment.tokens, whole, List.map_eq_nil_iff] at none
      exact Text.pieces_not_nil text none
  | slot placeholder => exact List.cons_ne_nil _ _

-- Leading segments that stand for as many tokens are as many.
theorem leading_tokens (a b : List Segment) (prefixed : a <+: b) (tight : ∀ segment ∈ b, Tight segment)
    (same : (tokensOf a).length = (tokensOf b).length) : a = b := by
  obtain ⟨more, whole⟩ := prefixed
  cases more with
  | nil => rw [← whole, List.append_nil]
  | cons segment later =>
      rw [← whole, tokensOf, tokensOf, List.flatMap_append, List.flatMap_cons, List.length_append, List.length_append] at same
      have member : segment ∈ b := by simp [← whole]
      have written := List.length_pos_iff.mpr (tight_tokens segment (tight segment member))
      omega

-- What a route of one component for each placeholder resolves parameters to.
structure Resolves (route : Route) (minimize : Bool) (given : Params) (resolution : Resolution) : Prop where
  ascending : route.filters.Pairwise fun a b => a.1 < b.1
  compiled : Compiled route
  componentwise : Componentwise route
  resolved : route.resolve given minimize = .ok resolution

section Resolves

variable (route : Route) (minimize : Bool) (given : Params) (resolution : Resolution)
  (run : Resolves route minimize given resolution)

include run

theorem resolved_admits (placeholder : Placeholder) (member : placeholder ∈ route.placeholders) (value : String)
    (form : (placeholder.effective given).map Value.form = some value) : placeholder.requirement.admits value = true := by
  have outcome := resolved_outcome route given minimize run.ascending
  rw [run.resolved] at outcome
  cases outcome with
  | kept count matched admitted least sound =>
      by_contra refused
      exact admitted placeholder member value ⟨form, Bool.eq_false_iff.mpr refused⟩

theorem components_of_path (appendSlash : Bool) : Text.components (resolution.path appendSlash) = resolution.tokenParts := by
  have parts := slashed_token_parts route given minimize resolution run.compiled run.resolved
  have plain := token_parts_plain resolution
  rw [path_of_parts resolution appendSlash parts]
  cases written : resolution.tokenParts with
  | nil => cases appendSlash <;> rfl
  | cons part rest =>
      rw [written] at plain
      have bare : Text.components (Text.slashed (part :: rest)) = part :: rest := components_slashed "" (part :: rest) plain
      rw [← Text.slashed_eq_intercalate]
      cases appendSlash with
      | false => simpa using bare
      | true =>
          have closed := Text.components_append (Text.slashed (part :: rest)) ""
          have empty : Text.components "" = [] := rfl
          rw [bare, empty] at closed
          simpa using closed

-- A kept placeholder has one part, the encoding of its value.
theorem slot_part (placeholder : Placeholder) (kept : .slot placeholder ∈ Resolution.keep minimize given route.segments) :
    ∃ value, (placeholder.effective given).map Value.form = some value ∧
      Token.parts resolution (.placeholder placeholder.kind placeholder.name) = [Text.encode value] := by
  have inside := keep_subset minimize given route.segments _ kept
  have among : placeholder ∈ route.placeholders := (mem_placeholders_iff route placeholder).mpr inside
  obtain ⟨dynamic, noSlash⟩ := run.componentwise placeholder among
  obtain ⟨pairs, sound⟩ := resolve_ok route given minimize resolution run.resolved
  obtain ⟨value, form, whole⟩ := sound_dynamic given placeholder dynamic (sound _ kept)
  have admitted := resolved_admits route minimize given resolution run placeholder among value form
  have member : (.slot placeholder, some value) ∈ resolution.kept := by
    rw [pairs]
    exact List.mem_map.mpr ⟨_, kept, by rw [form]⟩
  refine ⟨value, form, ?_⟩
  rw [Token.parts, kept_value route given minimize resolution run.compiled run.resolved placeholder _ member, Option.map_some,
    Option.getD_some, whole, Text.pieces_single value (noSlash value admitted), List.map_singleton]

theorem token_part (token : Token) (member : token ∈ resolution.tokens) : (Token.parts resolution token).length = 1 := by
  rcases kept_token resolution token member with ⟨text, same, _⟩ | ⟨placeholder, form, same, pair⟩
  · rw [same]
    rfl
  · have kept : .slot placeholder ∈ Resolution.keep minimize given route.segments := by
      rw [← kept_segments route given minimize resolution run.resolved]
      exact List.mem_map.mpr ⟨_, pair, rfl⟩
    obtain ⟨value, _, part⟩ := slot_part route minimize given resolution run placeholder kept
    rw [same, part]
    rfl

theorem token_parts_length : resolution.tokenParts.length = resolution.tokens.length := by
  have single := token_part route minimize given resolution run
  rw [Resolution.tokenParts, List.length_flatMap, List.map_congr_left single]
  simp

theorem kept_tight (segment : Segment) (kept : segment ∈ Resolution.keep minimize given route.segments) : Tight segment :=
  run.compiled.tight segment (keep_subset minimize given route.segments segment kept)

end Resolves

section SamePath

variable (route : Route) (options : PathOptions) (given other : Params) (resolution second : Resolution)
  (run : Resolves route options.minimize given resolution) (again : Resolves route options.minimize other second)
  (same : resolution.path options.appendSlash = second.path options.appendSlash)

include run again same

theorem same_path_parts : resolution.tokenParts = second.tokenParts := by
  rw [← components_of_path route options.minimize given resolution run options.appendSlash, same]
  exact components_of_path route options.minimize other second again options.appendSlash

-- One path has one number of components, and each of them is one kept token.
theorem same_path_kept :
    Resolution.keep options.minimize given route.segments = Resolution.keep options.minimize other route.segments := by
  have lengths : resolution.tokens.length = second.tokens.length := by
    rw [← token_parts_length route options.minimize given resolution run,
      ← token_parts_length route options.minimize other second again,
      same_path_parts route options given other resolution second run again same]
  rw [Resolution.tokens, Resolution.tokens, kept_segments route given options.minimize resolution run.resolved,
    kept_segments route other options.minimize second again.resolved] at lengths
  obtain ⟨dropped, split⟩ := kept_leading options.minimize given route.segments
  obtain ⟨rest, splitAgain⟩ := kept_leading options.minimize other route.segments
  rcases List.prefix_or_prefix_of_prefix ⟨dropped, split.symm⟩ ⟨rest, splitAgain.symm⟩ with shorter | longer
  · exact leading_tokens _ _ shorter (kept_tight route options.minimize other second again) lengths
  · exact (leading_tokens _ _ longer (kept_tight route options.minimize given resolution run) lengths.symm).symm

theorem same_path_slot (placeholder : Placeholder)
    (kept : .slot placeholder ∈ Resolution.keep options.minimize given route.segments) :
    (placeholder.effective given).map Value.form = (placeholder.effective other).map Value.form := by
  have keeps := same_path_kept route options given other resolution second run again same
  have parts := same_path_parts route options given other resolution second run again same
  have tokens : second.tokens = resolution.tokens := by
    rw [Resolution.tokens, Resolution.tokens, kept_segments route given options.minimize resolution run.resolved,
      kept_segments route other options.minimize second again.resolved, keeps]
  have token : .placeholder placeholder.kind placeholder.name ∈ resolution.tokens := by
    rw [Resolution.tokens, kept_segments route given options.minimize resolution run.resolved]
    exact List.mem_flatMap.mpr ⟨_, kept, List.mem_singleton_self _⟩
  rw [Resolution.tokenParts, Resolution.tokenParts, tokens] at parts
  have lengths : ∀ token ∈ resolution.tokens, (Token.parts resolution token).length = (Token.parts second token).length := by
    intro token member
    rw [token_part route options.minimize given resolution run token member,
      token_part route options.minimize other second again token (tokens ▸ member)]
  have part := flat_map_same _ _ _ lengths parts _ token
  obtain ⟨value, form, written⟩ := slot_part route options.minimize given resolution run placeholder kept
  obtain ⟨valueAgain, formAgain, writtenAgain⟩ :=
    slot_part route options.minimize other second again placeholder (keeps ▸ kept)
  rw [written, writtenAgain] at part
  rw [form, formAgain, Text.encode_injective (List.singleton_inj.mp part)]

theorem same_path_values (placeholder : Placeholder) (member : placeholder ∈ route.placeholders) :
    (placeholder.effective given).map Value.form = (placeholder.effective other).map Value.form := by
  have keeps := same_path_kept route options given other resolution second run again same
  obtain ⟨dropped, split, dispensable⟩ := keep_split options.minimize given route.segments
  obtain ⟨rest, splitAgain, dispensableAgain⟩ := keep_split options.minimize other route.segments
  have droppedSame : dropped = rest := by
    rw [keeps] at split
    exact List.append_cancel_left (split.symm.trans splitAgain)
  have inside := (mem_placeholders_iff route placeholder).mp member
  rw [split] at inside
  rcases List.mem_append.mp inside with kept | left
  · exact same_path_slot route options given other resolution second run again same placeholder kept
  · rw [dispensable_default options.minimize given placeholder (dispensable _ left),
      dispensable_default options.minimize other placeholder (dispensableAgain _ (droppedSame ▸ left))]

end SamePath

theorem path_tells_values (declaration : Declaration) (explicit : Bool) (order : Nat) (name : Option String) (route : Route)
    (compiled : Route.ofDeclaration declaration explicit order name = .ok route) (componentwise : Componentwise route)
    (options : PathOptions) (given other : Params) (path : String) (first : route.path given options = .ok path)
    (second : route.path other options = .ok path) :
    ∀ placeholder ∈ route.placeholders,
      (placeholder.effective given).map Value.form = (placeholder.effective other).map Value.form := by
  have ascending := filters_ascending declaration explicit order name route compiled
  have keeps := (of_declaration_compiled declaration explicit order name route compiled).2
  obtain ⟨resolution, resolved, written⟩ := path_ok route given options path first
  obtain ⟨again, resolvedAgain, writtenAgain⟩ := path_ok route other options path second
  exact same_path_values route options given other resolution again ⟨ascending, keeps, componentwise, resolved⟩
    ⟨ascending, keeps, componentwise, resolvedAgain⟩ (written.symm.trans writtenAgain)

-- A value of one component is what is required of a placeholder that nothing else is declared of.
theorem one_component_componentwise (route : Route)
    (required : ∀ placeholder ∈ route.placeholders, placeholder.kind = .dynamic ∧ placeholder.requirement = .oneComponent) :
    Componentwise route := by
  intro placeholder member
  obtain ⟨dynamic, requirement⟩ := required placeholder member
  refine ⟨dynamic, fun value admitted => ?_⟩
  rw [requirement] at admitted
  exact ((Requirement.one_component_admits_iff value).mp admitted).2

-- The page may be given as a number, as a text or not at all.
def shelf : Declaration where
  template := "shelf/:title/:page/:line"
  defaults := .ofList [("page", some (.int 20)), ("line", none)]

theorem path_tells_values_of_shelf :
    ∃ route, Route.ofDeclaration shelf true 0 none = .ok route ∧
      route.path (.ofList [("title", some (.text "ü +")), ("page", some (.text "20"))]) ⟨true, true⟩ =
        .ok "/shelf/%C3%BC+%2B/" ∧
      route.path (.ofList [("title", some (.text "ü +")), ("shelf", some (.int 3))]) ⟨true, true⟩ = .ok "/shelf/%C3%BC+%2B/" ∧
      ∀ placeholder ∈ route.placeholders,
        (placeholder.effective (.ofList [("title", some (.text "ü +")), ("page", some (.text "20"))])).map Value.form =
          (placeholder.effective (.ofList [("title", some (.text "ü +")), ("shelf", some (.int 3))])).map Value.form :=
  ⟨_, rfl, rfl, rfl, path_tells_values shelf true 0 none _ rfl (one_component_componentwise _ (by decide)) ⟨true, true⟩ _ _
    "/shelf/%C3%BC+%2B/" rfl rfl⟩

end PathTemplates
