import PathTemplates.Path
import PathTemplates.Proofs.Percent
import PathTemplates.Proofs.Tokens
import PathTemplates.Proofs.View

set_option autoImplicit false

/-!
Paths read off the tokens of a template: a path is the leading tokens that are kept, each behind a slash, where a literal
stands as it is and a placeholder is the encoded components of its value.
-/

namespace PathTemplates

-- What a token adds to the path of a resolution.
def Token.parts (resolution : Resolution) : Token → List String
  | .literal text => [text]
  | .placeholder _ name => (((resolution.value? name).map Text.components).getD []).map Text.encode

def Resolution.tokens (resolution : Resolution) : List Token := tokensOf (resolution.kept.map (·.1))

def Resolution.tokenParts (resolution : Resolution) : List String := resolution.tokens.flatMap (Token.parts resolution)

theorem encoded_component_plain (value component : String) (member : component ∈ Text.components value) :
    Plain (Text.encode component) := by
  obtain ⟨named, _⟩ := component_plain value component member
  constructor
  · intro empty
    exact named ((Text.encode_empty_iff component).mp empty)
  · intro slash
    exact Text.path_char_not_slash '/' (Text.encode_path_chars component '/' slash) rfl

theorem placeholder_part (resolution : Resolution) (kind : PlaceholderKind) (name part : String)
    (member : part ∈ Token.parts resolution (.placeholder kind name)) :
    ∃ value component, component ∈ Text.components value ∧ part = Text.encode component := by
  obtain ⟨component, inside, same⟩ := List.mem_map.mp member
  cases found : resolution.value? name with
  | none => simp [found] at inside
  | some value =>
      rw [found] at inside
      exact ⟨value, component, inside, same.symm⟩

theorem path_ok (route : Route) (given : Params) (options : PathOptions) (path : String)
    (generated : route.path given options = .ok path) :
    ∃ resolution, route.resolve given options.minimize = .ok resolution ∧ path = resolution.path options.appendSlash := by
  unfold Route.path at generated
  cases outcome : route.resolve given options.minimize with
  | error rejection =>
      rw [outcome] at generated
      cases generated
  | ok resolution =>
      rw [outcome] at generated
      cases generated
      exact ⟨resolution, rfl, rfl⟩

-- What a resolution keeps: leading segments of the route, each with the form of its value, and none that cannot be written.
theorem resolve_ok (route : Route) (given : Params) (minimize : Bool) (resolution : Resolution)
    (resolved : route.resolve given minimize = .ok resolution) :
    resolution.kept = (Resolution.keep minimize given route.segments).map (fun segment => (segment, segment.form? given)) ∧
      ∀ segment ∈ Resolution.keep minimize given route.segments, Resolution.flaw? given segment = none := by
  unfold Route.resolve at resolved
  dsimp only at resolved
  split at resolved
  · cases resolved
  · rename_i accepted
    simp only [Option.orElse_eq_orElse, Option.orElse_eq_or, Option.or_eq_none_iff] at accepted
    cases resolved
    exact ⟨rfl, List.findSome?_eq_none_iff.mp accepted.2.2⟩

theorem kept_leading (minimize : Bool) (given : Params) (segments : List Segment) :
    ∃ dropped, segments = Resolution.keep minimize given segments ++ dropped := by
  obtain ⟨dropped, whole⟩ : segments.reverse.dropWhile (·.droppable minimize given) <:+ segments.reverse :=
    List.dropWhile_suffix _
  refine ⟨dropped.reverse, ?_⟩
  rw [Resolution.keep, ← List.reverse_append, whole, List.reverse_reverse]

theorem find_kept (kept : List (Segment × Option String)) (segment : Segment) (value : Option String) (name : String)
    (distinct : (kept.filterMap (·.1.name?)).Nodup) (member : (segment, value) ∈ kept) (named : segment.name? = some name) :
    kept.find? (·.1.name? = some name) = some (segment, value) := by
  induction kept with
  | nil => cases member
  | cons first rest ih =>
      by_cases same : first.1.name? = some name
      · rw [List.find?_cons_of_pos (by simpa using same)]
        rw [List.filterMap_cons, same] at distinct
        rcases List.mem_cons.mp member with here | later
        · rw [here]
        · have again : name ∈ rest.filterMap (·.1.name?) := List.mem_filterMap.mpr ⟨(segment, value), later, named⟩
          exact absurd again (List.nodup_cons.mp distinct).1
      · rw [List.find?_cons_of_neg (by simpa using same)]
        have tail : (rest.filterMap (·.1.name?)).Nodup := by
          rw [List.filterMap_cons] at distinct
          cases other : first.1.name? with
          | none =>
              rw [other] at distinct
              exact distinct
          | some taken =>
              rw [other] at distinct
              exact (List.nodup_cons.mp distinct).2
        have later : (segment, value) ∈ rest := by
          apply (List.mem_cons.mp member).resolve_left
          intro here
          rw [← here] at same
          exact same named
        exact ih tail later

-- A token of a resolution is a literal or has its placeholder among what is kept.
theorem kept_token (resolution : Resolution) (token : Token) (member : token ∈ resolution.tokens) :
    (∃ text, token = .literal text ∧ Plain text) ∨
      ∃ placeholder value, token = .placeholder placeholder.kind placeholder.name ∧
        (.slot placeholder, value) ∈ resolution.kept := by
  obtain ⟨owner, inside, own⟩ := List.mem_flatMap.mp member
  obtain ⟨⟨segment, value⟩, kept, same⟩ := List.mem_map.mp inside
  rw [← same] at own
  cases segment with
  | literal text =>
      obtain ⟨component, within, written⟩ := List.mem_map.mp own
      exact .inl ⟨component, written.symm, component_plain text component within⟩
  | slot placeholder => exact .inr ⟨placeholder, value, List.mem_singleton.mp own, kept⟩

theorem token_parts_plain (resolution : Resolution) (part : String) (member : part ∈ resolution.tokenParts) :
    Plain part := by
  obtain ⟨token, inside, own⟩ := List.mem_flatMap.mp member
  rcases kept_token resolution token inside with ⟨text, same, plain⟩ | ⟨placeholder, _, same, _⟩
  · rw [same] at own
    rw [List.mem_singleton.mp own]
    exact plain
  · rw [same] at own
    obtain ⟨value, component, within, written⟩ := placeholder_part resolution _ _ part own
    rw [written]
    exact encoded_component_plain value component within

-- A dynamic placeholder is only written with a value of which no piece is empty.
theorem sound_dynamic (given : Params) (placeholder : Placeholder) (dynamic : placeholder.kind = .dynamic)
    (sound : Resolution.flaw? given (.slot placeholder) = none) :
    ∃ value, Segment.form? (.slot placeholder) given = some value ∧ Text.components value = Text.pieces value := by
  have form : Segment.form? (.slot placeholder) given = (placeholder.effective given).map Value.form := rfl
  rw [form]
  simp only [Resolution.flaw?, dynamic] at sound
  cases found : (placeholder.effective given).map Value.form with
  | none => simp [found] at sound
  | some value =>
      by_cases empty : value = ""
      · simp [found, empty] at sound
      · refine ⟨value, rfl, ?_⟩
        simp only [found, if_neg empty, ite_eq_right_iff, reduceCtorEq, imp_false] at sound
        apply List.filter_eq_self.mpr
        intro piece member
        by_contra blank
        exact sound (List.any_eq_true.mpr ⟨piece, member, by simpa using blank⟩)

section Resolved

variable (route : Route) (given : Params) (minimize : Bool) (resolution : Resolution) (compiled : Compiled route)
  (resolved : route.resolve given minimize = .ok resolution)

include resolved

theorem kept_segments : resolution.kept.map (·.1) = Resolution.keep minimize given route.segments := by
  rw [(resolve_ok route given minimize resolution resolved).1, List.map_map]
  exact List.map_id _

theorem kept_pair (segment : Segment) (value : Option String) (member : (segment, value) ∈ resolution.kept) :
    segment ∈ route.segments ∧ value = segment.form? given ∧ Resolution.flaw? given segment = none := by
  obtain ⟨kept, sound⟩ := resolve_ok route given minimize resolution resolved
  rw [kept] at member
  obtain ⟨other, inside, same⟩ := List.mem_map.mp member
  cases same
  exact ⟨keep_subset minimize given route.segments segment inside, rfl, sound segment inside⟩

include compiled

theorem tokens_leading : ∃ later, route.declaration.tokens = resolution.tokens ++ later := by
  obtain ⟨dropped, whole⟩ := kept_leading minimize given route.segments
  refine ⟨tokensOf dropped, ?_⟩
  rw [Resolution.tokens, kept_segments route given minimize resolution resolved, tokensOf, tokensOf, ← List.flatMap_append,
    ← whole]
  exact compiled.tokens.symm

theorem kept_distinct : (resolution.kept.filterMap (·.1.name?)).Nodup := by
  obtain ⟨dropped, whole⟩ := kept_leading minimize given route.segments
  have names : resolution.kept.filterMap (·.1.name?) = (Resolution.keep minimize given route.segments).filterMap (·.name?) := by
    rw [← kept_segments route given minimize resolution resolved, List.filterMap_map]
    rfl
  have distinct := compiled.distinct
  rw [whole, List.filterMap_append] at distinct
  rw [names]
  exact (List.nodup_append.mp distinct).1

-- A name is found in a resolution with the value in force of its placeholder.
theorem kept_value (placeholder : Placeholder) (value : Option String)
    (member : (.slot placeholder, value) ∈ resolution.kept) : resolution.value? placeholder.name = value := by
  have distinct := kept_distinct route given minimize resolution compiled resolved
  rw [Resolution.value?, find_kept resolution.kept (.slot placeholder) value placeholder.name distinct member rfl]
  rfl

theorem kept_parts (segment : Segment) (value : Option String) (member : (segment, value) ∈ resolution.kept) :
    Text.slashed (Resolution.parts segment value) = Text.slashed (segment.tokens.flatMap (Token.parts resolution)) := by
  cases segment with
  | literal text =>
      have inside : .literal text ∈ route.segments := (kept_pair route given minimize resolution resolved _ value member).1
      have tight : Text.components text = Text.pieces text := compiled.tight (.literal text) inside
      have single : (Segment.tokens (.literal text)).flatMap (Token.parts resolution) = Text.pieces text := by
        rw [Segment.tokens, List.flatMap_map, tight]
        exact List.flatMap_singleton' _
      rw [single, Text.slashed_pieces]
      rfl
  | slot placeholder =>
      have found := kept_value route given minimize resolution compiled resolved placeholder value member
      simp only [Segment.tokens, List.flatMap_singleton, Token.parts, Resolution.parts, found]

-- The literals of one segment stand between slashes that the segment has in it.
theorem slashed_token_parts :
    Text.slashed (resolution.kept.flatMap fun (segment, value) => Resolution.parts segment value) =
      Text.slashed resolution.tokenParts := by
  have parts : resolution.tokenParts = resolution.kept.flatMap fun (segment, _) => segment.tokens.flatMap (Token.parts resolution) := by
    rw [Resolution.tokenParts, Resolution.tokens, tokensOf, List.flatMap_map, List.flatMap_assoc]
  rw [parts]
  apply Text.slashed_flat_map
  intro pair member
  exact kept_parts route given minimize resolution compiled resolved pair.1 pair.2 member

theorem dynamic_parts (name : String) (member : .placeholder .dynamic name ∈ resolution.tokens) :
    ∃ value, resolution.value? name = some value ∧
      Token.parts resolution (.placeholder .dynamic name) = (Text.pieces value).map Text.encode := by
  rcases kept_token resolution _ member with ⟨text, same, _⟩ | ⟨placeholder, form, same, kept⟩
  · cases same
  · obtain ⟨kind, named⟩ := Token.placeholder.inj same
    obtain ⟨_, valued, sound⟩ := kept_pair route given minimize resolution resolved _ form kept
    obtain ⟨value, present, whole⟩ := sound_dynamic given placeholder kind.symm sound
    have found : resolution.value? name = some value := by
      rw [named, kept_value route given minimize resolution compiled resolved placeholder form kept, valued, present]
    refine ⟨value, found, ?_⟩
    rw [Token.parts, found, Option.map_some, Option.getD_some, whole]

end Resolved

-- The root is a single slash with or without a slash appended.
theorem path_of_parts (resolution : Resolution) (appendSlash : Bool)
    (same : Text.slashed (resolution.kept.flatMap fun (segment, value) => Resolution.parts segment value) =
      Text.slashed resolution.tokenParts) :
    resolution.path appendSlash = "/" ++ "/".intercalate resolution.tokenParts ++
      (if appendSlash = true ∧ resolution.tokenParts ≠ [] then "/" else "") := by
  have whole : resolution.path appendSlash =
      if Text.slashed resolution.tokenParts = "" || appendSlash then Text.slashed resolution.tokenParts ++ "/"
      else Text.slashed resolution.tokenParts := by
    rw [← same]
    rfl
  rw [whole]
  cases parts : resolution.tokenParts with
  | nil => cases appendSlash <;> rfl
  | cons part rest =>
      have written : Text.slashed (part :: rest) ≠ "" := by
        intro empty
        exact List.cons_ne_nil part rest ((Text.slashed_empty_iff (part :: rest)).mp empty)
      rw [← Text.slashed_eq_intercalate]
      cases appendSlash <;> simp [written]

theorem plain_single (parts : List String) (appendSlash : Bool) (plain : ∀ part ∈ parts, Plain part) :
    ¬ "//".toList <:+: ("/" ++ "/".intercalate parts ++ (if appendSlash = true ∧ parts ≠ [] then "/" else "")).toList := by
  cases parts with
  | nil =>
      intro double
      have bound := double.length_le
      simp at bound
  | cons part rest =>
      rw [← Text.slashed_eq_intercalate, String.toList_append]
      apply Text.slashed_single_slashes (part :: rest) _ _ plain
      cases appendSlash <;> simp

-- A path of a route, token by token.
structure Spelled (route : Route) (given : Params) (appendSlash : Bool) (resolution : Resolution) (path : String) : Prop where
  leading : resolution.tokens = route.declaration.tokens.take resolution.tokens.length
  text : path = "/" ++ "/".intercalate resolution.tokenParts ++
    (if appendSlash = true ∧ resolution.tokenParts ≠ [] then "/" else "")
  values : ∀ placeholder value, (.slot placeholder, value) ∈ resolution.kept →
    resolution.value? placeholder.name = (placeholder.effective given).map Value.form
  named : ∀ part ∈ resolution.tokenParts, part ≠ ""
  rooted : "/".toList <+: path.toList
  single : ¬ "//".toList <:+: path.toList
  whole : ∀ name, .placeholder .dynamic name ∈ resolution.tokens → ∃ value, resolution.value? name = some value ∧
    Token.parts resolution (.placeholder .dynamic name) = (Text.pieces value).map Text.encode ∧
    Token.parts resolution (.placeholder .dynamic name) ≠ []
  encoded : ∀ kind name, .placeholder kind name ∈ resolution.tokens →
    ∀ part ∈ Token.parts resolution (.placeholder kind name), ∀ c ∈ part.toList, Text.PathChar c

theorem path_spells_tokens (declaration : Declaration) (explicit : Bool) (order : Nat) (name : Option String) (route : Route)
    (given : Params) (options : PathOptions) (path : String)
    (compiled : Route.ofDeclaration declaration explicit order name = .ok route)
    (generated : route.path given options = .ok path) :
    route.declaration = declaration ∧ ∃ resolution, route.resolve given options.minimize = .ok resolution ∧
      Spelled route given options.appendSlash resolution path := by
  obtain ⟨same, keeps⟩ := of_declaration_compiled declaration explicit order name route compiled
  obtain ⟨resolution, resolved, written⟩ := path_ok route given options path generated
  have parts := slashed_token_parts route given options.minimize resolution keeps resolved
  have text := path_of_parts resolution options.appendSlash parts
  have plain := token_parts_plain resolution
  refine ⟨same, resolution, resolved, ?_⟩
  rw [← written] at text
  exact {
    leading := by
      obtain ⟨later, split⟩ := tokens_leading route given options.minimize resolution keeps resolved
      rw [split, List.take_left]
    text := text
    values := by
      intro placeholder value kept
      have valued := (kept_pair route given options.minimize resolution resolved _ value kept).2.1
      rw [kept_value route given options.minimize resolution keeps resolved placeholder value kept, valued]
      rfl
    named := by
      intro part member
      exact (plain part member).1
    rooted := by
      rw [text, String.append_assoc, String.toList_append]
      exact List.prefix_append _ _
    single := by
      rw [text]
      exact plain_single resolution.tokenParts options.appendSlash plain
    whole := by
      intro name member
      obtain ⟨value, found, parts⟩ := dynamic_parts route given options.minimize resolution keeps resolved name member
      refine ⟨value, found, parts, ?_⟩
      rw [parts]
      intro none
      exact Text.pieces_not_nil value (List.map_eq_nil_iff.mp none)
    encoded := by
      intro kind name member part own c inside
      obtain ⟨_, component, _, encoded⟩ := placeholder_part resolution kind name part own
      rw [encoded] at inside
      exact Text.encode_path_chars component c inside }

def pamphlet : Declaration := { template := "//a//b/:controller/c/*rest/" }

def pages : Params := .ofList [("controller", some (.text "p q/ü")), ("rest", some (.text "/u//v&w/"))]

theorem path_spells_tokens_and_empty_pieces :
    ∃ route, Route.ofDeclaration pamphlet false 0 none = .ok route ∧
      route.path pages ⟨true, true⟩ = .ok "/a/b/p+q/%C3%BC/c/u/v%26w/" ∧
      route.declaration = pamphlet ∧ ∃ resolution, route.resolve pages true = .ok resolution ∧
        Spelled route pages true resolution "/a/b/p+q/%C3%BC/c/u/v%26w/" :=
  ⟨_, rfl, rfl, path_spells_tokens pamphlet false 0 none _ pages ⟨true, true⟩ "/a/b/p+q/%C3%BC/c/u/v%26w/" rfl rfl⟩

end PathTemplates
