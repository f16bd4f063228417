import PathTemplates.Route
import PathTemplates.Proofs.Grammar

set_option autoImplicit false

/-!
Compiling a declaration takes what the grammar allows and refuses the rest with the error of the leftmost placeholder that
breaks a rule, or with the least name that is required of and that no placeholder has.
-/

namespace PathTemplates

theorem name_char_iff (c : Char) : Template.isNameChar c = true ↔ NameChar c := by
  simp only [Template.isNameChar, NameChar, Char.isAlphanum, Char.isAlpha, Char.isUpper, Char.isLower, Char.isDigit,
    Char.le_def, Bool.or_eq_true, Bool.and_eq_true, decide_eq_true_eq]
  tauto

theorem valid_name_iff (name : String) : ValidName name ↔ name ≠ "" ∧ name.toList.all Template.isNameChar = true := by
  simp only [ValidName, List.all_eq_true, name_char_iff]

theorem compiles_iff (pattern : String) : Compiles pattern ↔ (Requirement.ofPattern? pattern).isSome = true := by
  unfold Compiles Requirement.ofPattern?
  cases Regex.Pattern.ofSource (Requirement.anchored pattern) <;> simp

-- What the compiler carries along of the tokens that it has passed.
structure Covers (taken : Template.Taken) (before : List Token) : Prop where
  names : ∀ name, name ∈ taken.names ↔ name ∈ namesOf before
  glob : ∀ glob, taken.glob = some glob ↔ glob ∈ globsOf before

theorem covers_nothing : Covers {} [] := ⟨by simp [namesOf], by simp [globsOf]⟩

theorem covers_literal (taken : Template.Taken) (before : List Token) (text : String) (covers : Covers taken before) :
    Covers taken (before ++ [.literal text]) :=
  ⟨by simpa only [names_snoc_literal] using covers.names, by simpa only [globs_snoc_literal] using covers.glob⟩

theorem covers_add (taken : Template.Taken) (before : List Token) (kind : PlaceholderKind) (name : String)
    (covers : Covers taken before) (noGlob : globsOf before = []) :
    Covers (taken.add kind name) (before ++ [.placeholder kind name]) := by
  constructor
  · intro other
    have here : namesOf [.placeholder kind name] = [name] := rfl
    rw [names_append, here, List.mem_append, ← covers.names, List.mem_singleton]
    exact List.mem_cons.trans or_comm
  · intro glob
    rw [globs_append, noGlob, List.nil_append]
    cases kind with
    | dynamic =>
        have none := covers.glob glob
        rw [noGlob] at none
        simpa [Template.Taken.add, globsOf, Token.glob?] using none
    | glob => simp [Template.Taken.add, globsOf, Token.glob?, eq_comm]

theorem objection_offends (declaration : Declaration) (taken : Template.Taken) (before : List Token)
    (kind : PlaceholderKind) (name : String) (error : RegistrationError) (covers : Covers taken before)
    (objected : Template.objection? declaration.template taken kind name = some error) :
    Offence declaration before kind name error := by
  unfold Template.objection? at objected
  by_cases empty : name = ""
  · subst empty
    cases objected
    exact .emptyName kind
  · rw [if_neg empty] at objected
    by_cases valid : name.toList.all Template.isNameChar = true
    · have good : ValidName name := (valid_name_iff name).mpr ⟨empty, valid⟩
      rw [if_neg (by simp [valid])] at objected
      by_cases used : name ∈ taken.names
      · rw [if_pos (by simpa using used)] at objected
        cases objected
        exact .duplicateSegment kind name good ((covers.names name).mp used)
      · have fresh : name ∉ namesOf before := fun member => used ((covers.names name).mpr member)
        rw [if_neg (by simpa using used)] at objected
        cases glob : taken.glob with
        | none => simp [glob] at objected
        | some first =>
            have earlier := (covers.glob first).mp glob
            rw [glob] at objected
            cases kind with
            | dynamic =>
                cases objected
                exact .globBeforeDynamic name first good fresh earlier
            | glob =>
                cases objected
                exact .multipleGlobs name first good fresh earlier
    · rw [if_pos (by simpa using valid)] at objected
      cases objected
      exact .invalidName kind name empty fun good => valid ((valid_name_iff name).mp good).2

theorem unobjected (declaration : Declaration) (taken : Template.Taken) (before : List Token) (kind : PlaceholderKind)
    (name : String) (covers : Covers taken before)
    (silent : Template.objection? declaration.template taken kind name = none) :
    ValidName name ∧ name ∉ namesOf before ∧ globsOf before = [] := by
  unfold Template.objection? at silent
  by_cases empty : name = ""
  · simp [empty] at silent
  · by_cases valid : name.toList.all Template.isNameChar = true
    · by_cases used : name ∈ taken.names
      · simp [empty, valid, used] at silent
      · refine ⟨(valid_name_iff name).mpr ⟨empty, valid⟩, fun member => used ((covers.names name).mpr member), ?_⟩
        refine List.eq_nil_iff_forall_not_mem.mpr fun glob member => ?_
        have earlier := (covers.glob glob).mpr member
        cases kind <;> simp [empty, valid, used, earlier] at silent
    · simp [empty, valid] at silent

theorem placeholder_outcome (declaration : Declaration) (explicit : Bool) (kind : PlaceholderKind) (name : String) :
    (∃ pattern, declaration.requirements.pattern? name = some pattern ∧ ¬ Compiles pattern ∧
        Template.placeholder declaration explicit kind name = .error (.invalidRequirement name pattern)) ∨
      (∀ pattern, declaration.requirements.pattern? name = some pattern → Compiles pattern) ∧
        ∃ first, Template.placeholder declaration explicit kind name = .ok first ∧ first.kind = kind ∧ first.name = name := by
  unfold Template.placeholder
  cases declared : declaration.requirements.pattern? name with
  | none => exact .inr ⟨by simp, _, rfl, rfl, rfl⟩
  | some pattern =>
      have compiles := compiles_iff pattern
      cases outcome : Requirement.ofPattern? pattern with
      | none =>
          refine .inl ⟨pattern, rfl, by simp [compiles, outcome], ?_⟩
          simp only [Template.requirement, outcome]
          rfl
      | some requirement =>
          simp only [Template.requirement, outcome]
          refine .inr ⟨?_, _, rfl, rfl, rfl⟩
          intro other same
          cases same
          simp [compiles, outcome]

-- What the compiler answers a placeholder with, if it does not take it.
def refusal? (declaration : Declaration) (explicit : Bool) (taken : Template.Taken) (kind : PlaceholderKind)
    (name : String) : Option RegistrationError :=
  match Template.objection? declaration.template taken kind name, Template.placeholder declaration explicit kind name with
  | some error, _ => some error
  | none, .error error => some error
  | none, .ok _ => none

theorem refusal_some_iff (declaration : Declaration) (explicit : Bool) (taken : Template.Taken) (kind : PlaceholderKind)
    (name : String) (error : RegistrationError) :
    refusal? declaration explicit taken kind name = some error ↔
      Template.objection? declaration.template taken kind name = some error ∨
        Template.objection? declaration.template taken kind name = none ∧
          Template.placeholder declaration explicit kind name = .error error := by
  rw [refusal?]
  cases Template.objection? declaration.template taken kind name with
  | some first => simp
  | none => cases Template.placeholder declaration explicit kind name <;> simp

theorem refusal_none_iff (declaration : Declaration) (explicit : Bool) (taken : Template.Taken) (kind : PlaceholderKind)
    (name : String) :
    refusal? declaration explicit taken kind name = none ↔
      Template.objection? declaration.template taken kind name = none ∧
        ∃ first, Template.placeholder declaration explicit kind name = .ok first := by
  rw [refusal?]
  cases Template.objection? declaration.template taken kind name with
  | some first => simp
  | none => cases Template.placeholder declaration explicit kind name <;> simp

theorem refusal_offends (declaration : Declaration) (explicit : Bool) (taken : Template.Taken) (before : List Token)
    (kind : PlaceholderKind) (name : String) (error : RegistrationError) (covers : Covers taken before)
    (refused : refusal? declaration explicit taken kind name = some error) :
    Offence declaration before kind name error := by
  rcases (refusal_some_iff declaration explicit taken kind name error).mp refused with objected | ⟨silent, unplaced⟩
  · exact objection_offends declaration taken before kind name error covers objected
  · obtain ⟨valid, fresh, noGlob⟩ := unobjected declaration taken before kind name covers silent
    rcases placeholder_outcome declaration explicit kind name with
      ⟨pattern, required, broken, outcome⟩ | ⟨_, first, outcome, _⟩
    · rw [outcome] at unplaced
      cases unplaced
      exact .invalidRequirement kind name pattern valid fresh noGlob required broken
    · rw [outcome] at unplaced
      cases unplaced

theorem unrefused_quiet (declaration : Declaration) (explicit : Bool) (taken : Template.Taken) (before : List Token)
    (kind : PlaceholderKind) (name : String) (covers : Covers taken before)
    (accepted : refusal? declaration explicit taken kind name = none) :
    Quiet declaration before (.placeholder kind name) := by
  obtain ⟨silent, first, placed⟩ := (refusal_none_iff declaration explicit taken kind name).mp accepted
  obtain ⟨valid, fresh, noGlob⟩ := unobjected declaration taken before kind name covers silent
  apply (quiet_iff declaration before kind name).mpr
  rcases placeholder_outcome declaration explicit kind name with ⟨_, _, _, outcome⟩ | ⟨compiles, _⟩
  · rw [outcome] at placed
    cases placed
  · exact ⟨valid, fresh, noGlob, compiles⟩

theorem offence_refused (declaration : Declaration) (explicit : Bool) (taken : Template.Taken) (before : List Token)
    (kind : PlaceholderKind) (name : String) (error : RegistrationError) (covers : Covers taken before)
    (offence : Offence declaration before kind name error) :
    refusal? declaration explicit taken kind name = some error := by
  have unused (fresh : name ∉ namesOf before) : name ∉ taken.names := fun member => fresh ((covers.names name).mp member)
  apply (refusal_some_iff declaration explicit taken kind name error).mpr
  cases offence with
  | emptyName => simp [Template.objection?]
  | invalidName _ _ named invalid =>
      have bad : ¬ name.toList.all Template.isNameChar = true := fun good => invalid ((valid_name_iff name).mpr ⟨named, good⟩)
      simp [Template.objection?, named, bad]
  | duplicateSegment _ _ valid used =>
      obtain ⟨named, good⟩ := (valid_name_iff name).mp valid
      simp [Template.objection?, named, good, (covers.names name).mpr used]
  | multipleGlobs _ glob valid fresh member =>
      obtain ⟨named, good⟩ := (valid_name_iff name).mp valid
      simp [Template.objection?, named, good, unused fresh, (covers.glob glob).mpr member]
  | globBeforeDynamic _ glob valid fresh member =>
      obtain ⟨named, good⟩ := (valid_name_iff name).mp valid
      simp [Template.objection?, named, good, unused fresh, (covers.glob glob).mpr member]
  | invalidRequirement _ _ pattern valid fresh noGlob required broken =>
      obtain ⟨named, good⟩ := (valid_name_iff name).mp valid
      have noneTaken : taken.glob = none := by
        apply Option.eq_none_iff_forall_ne_some.mpr
        intro glob found
        have member := (covers.glob glob).mp found
        simp [noGlob] at member
      rcases placeholder_outcome declaration explicit kind name with ⟨other, same, _, outcome⟩ | ⟨compiles, _⟩
      · rw [required] at same
        cases same
        simp [Template.objection?, named, good, unused fresh, noneTaken, outcome]
      · exact absurd (compiles pattern required) broken

section Place

variable (declaration : Declaration) (explicit : Bool) (taken : Template.Taken)

theorem place_literal (text : String) (rest : List Token) :
    Template.place declaration explicit taken (.literal text :: rest) =
      (Template.place declaration explicit taken rest).map (Template.consLiteral text) := by
  rw [Template.place]
  cases Template.place declaration explicit taken rest <;> rfl

theorem place_refused (kind : PlaceholderKind) (name : String) (rest : List Token) (error : RegistrationError)
    (refused : refusal? declaration explicit taken kind name = some error) :
    Template.place declaration explicit taken (.placeholder kind name :: rest) = .error error := by
  rw [Template.place]
  rcases (refusal_some_iff declaration explicit taken kind name error).mp refused with objected | ⟨silent, unplaced⟩
  · rw [objected]
    rfl
  · rw [silent, unplaced]
    rfl

theorem place_slot (kind : PlaceholderKind) (name : String) (rest : List Token)
    (accepted : refusal? declaration explicit taken kind name = none) :
    ∃ first, Template.placeholder declaration explicit kind name = .ok first ∧
      Template.place declaration explicit taken (.placeholder kind name :: rest) =
        (Template.place declaration explicit (taken.add kind name) rest).map (.slot first :: ·) := by
  obtain ⟨silent, first, placed⟩ := (refusal_none_iff declaration explicit taken kind name).mp accepted
  refine ⟨first, placed, ?_⟩
  rw [Template.place, silent, placed]
  cases Template.place declaration explicit (taken.add kind name) rest <;> rfl

end Place

-- The induction is on the tokens ahead; what the compiler carries covers those behind.
theorem place_error_iff (declaration : Declaration) (explicit : Bool) (taken : Template.Taken)
    (before tokens : List Token) (error : RegistrationError) (covers : Covers taken before) :
    Template.place declaration explicit taken tokens = .error error ↔
      FirstOffence declaration before tokens error := by
  induction tokens generalizing taken before with
  | nil => simp [Template.place, FirstOffence]
  | cons token rest ih =>
      cases token with
      | literal text =>
          have quiet : Quiet declaration before (.literal text) := by intro kind name same; cases same
          rw [first_offence_quiet _ _ _ _ _ quiet, ← ih taken _ (covers_literal taken before text covers), place_literal]
          cases Template.place declaration explicit taken rest <;> simp [Except.map]
      | placeholder kind name =>
          cases refused : refusal? declaration explicit taken kind name with
          | some first =>
              rw [place_refused declaration explicit taken kind name rest first refused, Except.error.injEq]
              constructor
              · intro same
                rw [← same]
                apply first_offence_here declaration before kind name rest first
                exact refusal_offends declaration explicit taken before kind name first covers refused
              · intro ⟨passed, _, _, after, split, clean, offence⟩
                cases passed with
                | nil =>
                    cases split
                    rw [List.append_nil] at offence
                    have again := offence_refused declaration explicit taken before kind name error covers offence
                    exact Option.some.inj (refused.symm.trans again)
                | cons token passed =>
                    obtain ⟨rfl, _⟩ := List.cons.inj split
                    have quiet := ((clean_cons _ _ _ _).mp clean).1
                    have offends := refusal_offends declaration explicit taken before kind name first covers refused
                    exact absurd offends (quiet kind name rfl first)
          | none =>
              have quiet := unrefused_quiet declaration explicit taken before kind name covers refused
              have noGlob := ((quiet_iff declaration before kind name).mp quiet).2.2.1
              obtain ⟨first, _, placed⟩ := place_slot declaration explicit taken kind name rest refused
              rw [first_offence_quiet _ _ _ _ _ quiet, placed,
                ← ih (taken.add kind name) _ (covers_add taken before kind name covers noGlob)]
              cases Template.place declaration explicit (taken.add kind name) rest <;> simp [Except.map]

-- The segments of tokens that the compiler has taken, whatever it had passed before.
inductive Placed (declaration : Declaration) (explicit : Bool) : List Token → List Segment → Prop
  | nil : Placed declaration explicit [] []
  | literal (text : String) (rest : List Token) (segments : List Segment) :
      Placed declaration explicit rest segments →
      Placed declaration explicit (.literal text :: rest) (Template.consLiteral text segments)
  | slot (first : Placeholder) (rest : List Token) (segments : List Segment) :
      Template.placeholder declaration explicit first.kind first.name = .ok first →
      Placed declaration explicit rest segments →
      Placed declaration explicit (.placeholder first.kind first.name :: rest) (.slot first :: segments)

theorem placeholder_token (declaration : Declaration) (explicit : Bool) (kind : PlaceholderKind) (name : String)
    (first : Placeholder) (placed : Template.placeholder declaration explicit kind name = .ok first) :
    first.kind = kind ∧ first.name = name := by
  rcases placeholder_outcome declaration explicit kind name with ⟨_, _, _, outcome⟩ | ⟨_, other, outcome, same⟩
  · rw [outcome] at placed
    cases placed
  · rw [outcome] at placed
    cases placed
    exact same

theorem map_ok {α β : Type} (outcome : Except RegistrationError α) (f : α → β) (result : β)
    (mapped : outcome.map f = .ok result) : ∃ value, outcome = .ok value ∧ f value = result := by
  cases outcome with
  | error error => cases mapped
  | ok value => exact ⟨value, rfl, Except.ok.inj mapped⟩

theorem place_placed (declaration : Declaration) (explicit : Bool) (taken : Template.Taken) (tokens : List Token)
    (segments : List Segment) (completed : Template.place declaration explicit taken tokens = .ok segments) :
    Placed declaration explicit tokens segments := by
  induction tokens generalizing taken segments with
  | nil =>
      cases completed
      exact .nil
  | cons token rest ih =>
      cases token with
      | literal text =>
          rw [place_literal] at completed
          obtain ⟨later, outcome, rfl⟩ := map_ok _ _ _ completed
          exact .literal text rest later (ih taken later outcome)
      | placeholder kind name =>
          cases refused : refusal? declaration explicit taken kind name with
          | some error =>
              rw [place_refused declaration explicit taken kind name rest error refused] at completed
              cases completed
          | none =>
              obtain ⟨first, placed, whole⟩ := place_slot declaration explicit taken kind name rest refused
              obtain ⟨rfl, rfl⟩ := placeholder_token declaration explicit kind name first placed
              rw [whole] at completed
              obtain ⟨later, outcome, rfl⟩ := map_ok _ _ _ completed
              exact .slot first rest later placed (ih _ later outcome)

theorem names_cons_literal (text : String) (segments : List Segment) :
    (Template.consLiteral text segments).filterMap (·.name?) = segments.filterMap (·.name?) := by
  cases segments with
  | nil => rfl
  | cons first rest => cases first <;> rfl

theorem placed_names (declaration : Declaration) (explicit : Bool) (tokens : List Token) (segments : List Segment)
    (placed : Placed declaration explicit tokens segments) : segments.filterMap (·.name?) = namesOf tokens := by
  induction placed with
  | nil => rfl
  | literal text rest segments _ ih => exact (names_cons_literal text segments).trans ih
  | slot first rest segments _ _ ih => exact congrArg (first.name :: ·) ih

theorem find_least (names : List String) (ascending : names.Pairwise (· < ·)) (wanted : String → Bool) (name : String) :
    names.find? wanted = some name ↔
      (name ∈ names ∧ wanted name = true) ∧ ∀ other, other ∈ names ∧ wanted other = true → name ≤ other := by
  induction names with
  | nil => simp
  | cons first rest ih =>
      obtain ⟨above, tail⟩ := List.pairwise_cons.mp ascending
      by_cases hit : wanted first = true
      · rw [List.find?_cons_of_pos hit, Option.some.injEq]
        constructor
        · intro same
          subst same
          refine ⟨⟨List.mem_cons_self, hit⟩, ?_⟩
          intro other ⟨member, _⟩
          rcases List.mem_cons.mp member with same | later
          · rw [same]
          · exact Std.le_of_lt (above other later)
        · intro ⟨⟨member, _⟩, least⟩
          rcases List.mem_cons.mp member with same | later
          · exact same.symm
          · exact absurd (above name later) (Std.not_lt.mpr (least first ⟨List.mem_cons_self, hit⟩))
      · rw [List.find?_cons_of_neg hit, ih tail]
        have elsewhere (other : String) :
            (other ∈ first :: rest ∧ wanted other = true) ↔ (other ∈ rest ∧ wanted other = true) := by
          constructor
          · intro ⟨member, found⟩
            exact ⟨(List.mem_cons.mp member).resolve_left fun same => hit (same ▸ found), found⟩
          · intro ⟨member, found⟩
            exact ⟨List.mem_cons_of_mem _ member, found⟩
        simp only [elsewhere]

theorem required_names (declaration : Declaration) (name : String) :
    name ∈ declaration.requirements.toList.map (·.1) ↔
      ∃ pattern, declaration.requirements.pattern? name = some pattern := by
  rw [List.mem_map]
  constructor
  · intro ⟨⟨first, pattern⟩, member, same⟩
    rw [← same]
    exact ⟨pattern, (NameMap.mem_iff_get _ first pattern).mp member⟩
  · intro ⟨pattern, required⟩
    exact ⟨(name, pattern), (NameMap.mem_iff_get _ name pattern).mpr required, rfl⟩

theorem stray_iff (declaration : Declaration) (segments : List Segment)
    (names : segments.filterMap (·.name?) = namesOf declaration.tokens) (name : String) :
    name ∈ declaration.requirements.toList.map (·.1) ∧ (!(segments.filterMap (·.name?)).contains name) = true ↔
      Stray declaration name := by
  rw [required_names, names, Stray]
  simp

theorem stray_requirement_some (declaration : Declaration) (segments : List Segment)
    (names : segments.filterMap (·.name?) = namesOf declaration.tokens) (name : String) :
    Template.strayRequirement? declaration.requirements segments = some name ↔ LeastStray declaration name := by
  have ascending : (declaration.requirements.toList.map (·.1)).Pairwise (· < ·) :=
    List.pairwise_map.mpr declaration.requirements.patterns.ascending
  rw [Template.strayRequirement?, find_least _ ascending]
  simp only [stray_iff declaration segments names, LeastStray]

theorem stray_requirement_none (declaration : Declaration) (segments : List Segment)
    (names : segments.filterMap (·.name?) = namesOf declaration.tokens) :
    Template.strayRequirement? declaration.requirements segments = none ↔ ∀ name, ¬ Stray declaration name := by
  simp only [Template.strayRequirement?, List.find?_eq_none, ← stray_iff declaration segments names, not_and]

def Refused (declaration : Declaration) (error : RegistrationError) : Prop :=
  FirstOffence declaration [] declaration.tokens error ∨
    Clean declaration [] declaration.tokens ∧
      ∃ name, LeastStray declaration name ∧ error = .unknownRequirement declaration.template name

theorem segments_of_placed (declaration : Declaration) (explicit : Bool) (segments : List Segment)
    (placed : Template.place declaration explicit {} declaration.tokens = .ok segments) :
    Template.segments declaration explicit =
      match Template.strayRequirement? declaration.requirements segments with
      | some name => .error (.unknownRequirement declaration.template name)
      | none => .ok segments := by
  unfold Template.segments
  change (Template.place declaration explicit {} declaration.tokens >>= _) = _
  rw [placed]
  dsimp only [bind, Except.bind]
  cases Template.strayRequirement? declaration.requirements segments <;> rfl

theorem segments_of_unplaced (declaration : Declaration) (explicit : Bool) (error : RegistrationError)
    (unplaced : Template.place declaration explicit {} declaration.tokens = .error error) :
    Template.segments declaration explicit = .error error := by
  unfold Template.segments
  change (Template.place declaration explicit {} declaration.tokens >>= _) = _
  rw [unplaced]
  rfl

theorem segments_ok (declaration : Declaration) (explicit : Bool) (segments : List Segment)
    (compiled : Template.segments declaration explicit = .ok segments) :
    Template.place declaration explicit {} declaration.tokens = .ok segments ∧
      Template.strayRequirement? declaration.requirements segments = none := by
  cases outcome : Template.place declaration explicit {} declaration.tokens with
  | error error =>
      rw [segments_of_unplaced declaration explicit error outcome] at compiled
      cases compiled
  | ok placed =>
      rw [segments_of_placed declaration explicit placed outcome] at compiled
      cases stray : Template.strayRequirement? declaration.requirements placed with
      | some name => simp [stray] at compiled
      | none =>
          rw [stray] at compiled
          cases compiled
          exact ⟨rfl, stray⟩

theorem segments_placed (declaration : Declaration) (explicit : Bool) (segments : List Segment)
    (compiled : Template.segments declaration explicit = .ok segments) :
    Placed declaration explicit declaration.tokens segments :=
  place_placed declaration explicit {} _ segments (segments_ok declaration explicit segments compiled).1

theorem placed_unoffended (declaration : Declaration) (explicit : Bool) (segments : List Segment)
    (placed : Template.place declaration explicit {} declaration.tokens = .ok segments) (error : RegistrationError) :
    ¬ FirstOffence declaration [] declaration.tokens error := by
  intro offended
  rw [(place_error_iff declaration explicit {} [] declaration.tokens error covers_nothing).mpr offended] at placed
  cases placed

theorem placed_clean (declaration : Declaration) (explicit : Bool) (segments : List Segment)
    (placed : Template.place declaration explicit {} declaration.tokens = .ok segments) :
    Clean declaration [] declaration.tokens := by
  apply (clean_or_first_offence declaration [] declaration.tokens).resolve_right
  intro ⟨error, offended⟩
  exact placed_unoffended declaration explicit segments placed error offended

theorem segments_error_iff (declaration : Declaration) (explicit : Bool) (error : RegistrationError) :
    Template.segments declaration explicit = .error error ↔ Refused declaration error := by
  cases outcome : Template.place declaration explicit {} declaration.tokens with
  | error first =>
      have offence (other : RegistrationError) :=
        place_error_iff declaration explicit {} [] declaration.tokens other covers_nothing
      have offended := (offence first).mp outcome
      rw [segments_of_unplaced declaration explicit first outcome, Except.error.injEq, Refused, ← offence error, outcome,
        Except.error.injEq]
      refine ⟨.inl, fun refused => refused.resolve_right ?_⟩
      intro ⟨clean, _⟩
      exact clean_excludes_offence declaration [] _ first clean offended
  | ok segments =>
      have names := placed_names declaration explicit _ _ (place_placed declaration explicit {} _ segments outcome)
      have clean := placed_clean declaration explicit segments outcome
      rw [segments_of_placed declaration explicit segments outcome, Refused,
        or_iff_right (placed_unoffended declaration explicit segments outcome error)]
      cases stray : Template.strayRequirement? declaration.requirements segments with
      | some name =>
          have least := (stray_requirement_some declaration segments names name).mp stray
          constructor
          · intro refused
            cases refused
            exact ⟨clean, name, least, rfl⟩
          · intro ⟨_, other, found, refused⟩
            rw [(stray_requirement_some declaration segments names other).mpr found] at stray
            rw [refused, Option.some.inj stray]
      | none =>
          have known := (stray_requirement_none declaration segments names).mp stray
          constructor
          · intro accepted
            cases accepted
          · intro ⟨_, name, least, _⟩
            exact absurd least.1 (known name)

theorem segments_ok_iff (declaration : Declaration) (explicit : Bool) :
    (∃ segments, Template.segments declaration explicit = .ok segments) ↔ Grammatical declaration := by
  rw [grammatical_iff_clean]
  constructor
  · intro ⟨segments, compiled⟩
    obtain ⟨placed, stray⟩ := segments_ok declaration explicit segments compiled
    have names := placed_names declaration explicit _ _ (place_placed declaration explicit {} _ segments placed)
    exact ⟨placed_clean declaration explicit segments placed, (stray_requirement_none declaration segments names).mp stray⟩
  · intro ⟨clean, known⟩
    cases outcome : Template.segments declaration explicit with
    | ok segments => exact ⟨segments, rfl⟩
    | error error =>
        rcases (segments_error_iff declaration explicit error).mp outcome with offended | ⟨_, name, least, _⟩
        · exact absurd offended (clean_excludes_offence declaration [] _ error clean)
        · exact absurd least.1 (known name)

theorem of_declaration_ok_iff (declaration : Declaration) (explicit : Bool) (order : Nat) (name : Option String)
    (route : Route) :
    Route.ofDeclaration declaration explicit order name = .ok route ↔
      ∃ segments, Template.segments declaration explicit = .ok segments ∧
        route = ⟨declaration, name, order, segments, Route.filtersOf declaration.defaults segments⟩ := by
  unfold Route.ofDeclaration
  cases Template.segments declaration explicit with
  | error error => simp [bind, Except.bind]
  | ok segments => simp [bind, Except.bind, pure, Except.pure, eq_comm]

theorem of_declaration_error_iff (declaration : Declaration) (explicit : Bool) (order : Nat) (name : Option String)
    (error : RegistrationError) :
    Route.ofDeclaration declaration explicit order name = .error error ↔ Refused declaration error := by
  rw [← segments_error_iff declaration explicit error]
  unfold Route.ofDeclaration
  cases Template.segments declaration explicit with
  | error first => simp [bind, Except.bind]
  | ok segments => simp [bind, Except.bind, pure, Except.pure]

theorem of_declaration_accepts_iff (declaration : Declaration) (explicit : Bool) (order : Nat) (name : Option String) :
    (∃ route, Route.ofDeclaration declaration explicit order name = .ok route) ↔ Grammatical declaration := by
  rw [← segments_ok_iff declaration explicit]
  constructor
  · intro ⟨route, compiled⟩
    obtain ⟨segments, outcome, _⟩ := (of_declaration_ok_iff declaration explicit order name route).mp compiled
    exact ⟨segments, outcome⟩
  · intro ⟨segments, outcome⟩
    exact ⟨_, (of_declaration_ok_iff declaration explicit order name _).mpr ⟨segments, outcome, rfl⟩⟩

theorem of_declaration_accepts_iff_well_written (declaration : Declaration) (explicit : Bool) (order : Nat) (name : Option String) :
    (∃ route, Route.ofDeclaration declaration explicit order name = .ok route) ↔ WellWritten declaration :=
  (of_declaration_accepts_iff declaration explicit order name).trans (grammatical_iff_well_written declaration)

end PathTemplates
