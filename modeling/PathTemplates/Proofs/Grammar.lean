import PathTemplates.Template
import PathTemplates.Proofs.Names

set_option autoImplicit false

/-!
The grammar of declarations: what the placeholders of a template have to keep to, once as rules on the whole template and
once as the rule that a placeholder breaks behind the tokens before it. Both describe the same declarations, and so do the
rules on what the template has between its slashes.
-/

namespace PathTemplates

namespace Token

def name? : Token → Option String
  | .literal _ => none
  | .placeholder _ name => some name

def glob? : Token → Option String
  | .placeholder .glob name => some name
  | _ => none

def text : Token → String
  | .literal text => text
  | .placeholder .dynamic name => ":" ++ name
  | .placeholder .glob name => "*" ++ name

theorem name_iff (token : Token) (name : String) : token.name? = some name ↔ ∃ kind, token = .placeholder kind name := by
  cases token <;> simp [name?]

theorem glob_iff (token : Token) (glob : String) : token.glob? = some glob ↔ token = .placeholder .glob glob := by
  rcases token with _ | ⟨_ | _, name⟩ <;> simp [glob?]

section Reading

variable (text : String)

-- The first character decides how a text is read.
theorem of_text_placeholder_iff (kind : PlaceholderKind) (name : String) :
    ofText text = .placeholder kind name ↔ text = (placeholder kind name).text := by
  rw [← String.toList_inj, ofText]
  cases text.toList with
  | nil => cases kind <;> simp [Token.text]
  | cons c rest =>
      by_cases dynamic : c = ':'
      · cases kind <;> simp [dynamic, Token.text, ← String.toList_inj]
      · by_cases glob : c = '*'
        · cases kind <;> simp [glob, Token.text, ← String.toList_inj]
        · cases kind <;> simp [dynamic, glob, Token.text]

theorem of_text_dynamic_iff (name : String) : ofText text = .placeholder .dynamic name ↔ text = ":" ++ name :=
  of_text_placeholder_iff text .dynamic name

theorem of_text_glob_iff (name : String) : ofText text = .placeholder .glob name ↔ text = "*" ++ name :=
  of_text_placeholder_iff text .glob name

theorem of_text_literal_iff (other : String) :
    ofText text = .literal other ↔ other = text ∧ text.toList.head? ≠ some ':' ∧ text.toList.head? ≠ some '*' := by
  rw [ofText]
  cases text.toList with
  | nil => simp [eq_comm]
  | cons c rest =>
      by_cases dynamic : c = ':'
      · simp [dynamic]
      · by_cases glob : c = '*'
        · simp [glob]
        · simp [dynamic, glob, eq_comm]

end Reading

end Token

def namesOf (tokens : List Token) : List String := tokens.filterMap Token.name?

def globsOf (tokens : List Token) : List String := tokens.filterMap Token.glob?

def Declaration.tokens (declaration : Declaration) : List Token := Token.ofTemplate declaration.template

def NameChar (c : Char) : Prop := 'a' ≤ c ∧ c ≤ 'z' ∨ 'A' ≤ c ∧ c ≤ 'Z' ∨ '0' ≤ c ∧ c ≤ '9' ∨ c = '_'

def ValidName (name : String) : Prop := name ≠ "" ∧ ∀ c ∈ name.toList, NameChar c

def Compiles (pattern : String) : Prop := ∃ compiled, Regex.Pattern.ofSource (Requirement.anchored pattern) = .ok compiled

structure Grammatical (declaration : Declaration) : Prop where
  valid : ∀ kind name, .placeholder kind name ∈ declaration.tokens → ValidName name
  distinct : (namesOf declaration.tokens).Nodup
  oneGlob : (globsOf declaration.tokens).length ≤ 1
  globLast : ∀ before glob after, declaration.tokens = before ++ .placeholder .glob glob :: after →
    ∀ name, .placeholder .dynamic name ∉ after
  known : ∀ name pattern, declaration.requirements.pattern? name = some pattern → name ∈ namesOf declaration.tokens
  compiles : ∀ name pattern, declaration.requirements.pattern? name = some pattern → Compiles pattern

-- A text that has a name behind one of the two marks.
def Marked (text name : String) : Prop := text = ":" ++ name ∨ text = "*" ++ name

structure WellWritten (declaration : Declaration) : Prop where
  valid : ∀ text ∈ Text.components declaration.template, ∀ name, Marked text name → ValidName name
  distinct : (Text.components declaration.template).Pairwise fun first later => ∀ name, Marked first name → ¬ Marked later name
  globLast : (Text.components declaration.template).Pairwise fun first later =>
    ∀ glob name, first = "*" ++ glob → ¬ Marked later name
  known : ∀ name pattern, declaration.requirements.pattern? name = some pattern →
    ∃ text ∈ Text.components declaration.template, Marked text name
  compiles : ∀ name pattern, declaration.requirements.pattern? name = some pattern → Compiles pattern

-- The first rule, in the order of the constructors, that a placeholder breaks behind the tokens before it.
inductive Offence (declaration : Declaration) (before : List Token) :
    PlaceholderKind → String → RegistrationError → Prop
  | emptyName (kind : PlaceholderKind) : Offence declaration before kind "" (.emptyName declaration.template)
  | invalidName (kind : PlaceholderKind) (name : String) : name ≠ "" → ¬ ValidName name →
      Offence declaration before kind name (.invalidName declaration.template name)
  | duplicateSegment (kind : PlaceholderKind) (name : String) : ValidName name → name ∈ namesOf before →
      Offence declaration before kind name (.duplicateSegment declaration.template name)
  | multipleGlobs (name glob : String) : ValidName name → name ∉ namesOf before → glob ∈ globsOf before →
      Offence declaration before .glob name (.multipleGlobs declaration.template)
  | globBeforeDynamic (name glob : String) : ValidName name → name ∉ namesOf before → glob ∈ globsOf before →
      Offence declaration before .dynamic name (.globBeforeDynamic declaration.template glob name)
  | invalidRequirement (kind : PlaceholderKind) (name pattern : String) : ValidName name → name ∉ namesOf before →
      globsOf before = [] → declaration.requirements.pattern? name = some pattern → ¬ Compiles pattern →
      Offence declaration before kind name (.invalidRequirement name pattern)

-- A token that breaks no rule behind the tokens before it.
def Quiet (declaration : Declaration) (before : List Token) (token : Token) : Prop :=
  ∀ kind name, token = .placeholder kind name → ∀ error, ¬ Offence declaration before kind name error

-- Tokens of which none breaks a rule, behind others.
def Clean (declaration : Declaration) (before tokens : List Token) : Prop :=
  ∀ passed token after, tokens = passed ++ token :: after → Quiet declaration (before ++ passed) token

-- The error of the leftmost token that breaks a rule.
def FirstOffence (declaration : Declaration) (before tokens : List Token) (error : RegistrationError) : Prop :=
  ∃ passed kind name after, tokens = passed ++ .placeholder kind name :: after ∧
    Clean declaration before passed ∧ Offence declaration (before ++ passed) kind name error

-- A name that a pattern is required of and that no placeholder has.
def Stray (declaration : Declaration) (name : String) : Prop :=
  (∃ pattern, declaration.requirements.pattern? name = some pattern) ∧ name ∉ namesOf declaration.tokens

def LeastStray (declaration : Declaration) (name : String) : Prop :=
  Stray declaration name ∧ ∀ other, Stray declaration other → name ≤ other

theorem clean_nil (declaration : Declaration) (before : List Token) : Clean declaration before [] := by
  intro passed token after split
  simp at split

theorem clean_cons (declaration : Declaration) (before : List Token) (token : Token) (rest : List Token) :
    Clean declaration before (token :: rest) ↔
      Quiet declaration before token ∧ Clean declaration (before ++ [token]) rest := by
  constructor
  · intro clean
    refine ⟨by simpa using clean [] token rest rfl, ?_⟩
    intro passed other after split
    simpa using clean (token :: passed) other after (by rw [split, List.cons_append])
  · intro ⟨quiet, clean⟩ passed other after split
    cases passed with
    | nil =>
        obtain ⟨rfl, rfl⟩ := List.cons.inj split
        simpa using quiet
    | cons first passed =>
        obtain ⟨rfl, later⟩ := List.cons.inj split
        simpa using clean passed other after later

theorem clean_snoc (declaration : Declaration) (tokens : List Token) (token : Token)
    (clean : Clean declaration [] (tokens ++ [token])) :
    Clean declaration [] tokens ∧ Quiet declaration tokens token := by
  refine ⟨fun passed other after split => ?_, clean tokens token [] rfl⟩
  exact clean passed other (after ++ [token]) (by rw [split, List.append_assoc, List.cons_append])

theorem first_offence_here (declaration : Declaration) (before : List Token) (kind : PlaceholderKind) (name : String)
    (rest : List Token) (error : RegistrationError) (offence : Offence declaration before kind name error) :
    FirstOffence declaration before (.placeholder kind name :: rest) error :=
  ⟨[], kind, name, rest, rfl, clean_nil declaration before, by simpa using offence⟩

theorem first_offence_quiet (declaration : Declaration) (before : List Token) (token : Token) (rest : List Token)
    (error : RegistrationError) (quiet : Quiet declaration before token) :
    FirstOffence declaration before (token :: rest) error ↔
      FirstOffence declaration (before ++ [token]) rest error := by
  constructor
  · intro ⟨passed, kind, name, after, split, clean, offence⟩
    cases passed with
    | nil =>
        obtain ⟨rfl, rfl⟩ := List.cons.inj split
        exact absurd (by simpa using offence) (quiet kind name rfl error)
    | cons first passed =>
        obtain ⟨rfl, later⟩ := List.cons.inj split
        exact ⟨passed, kind, name, after, later, ((clean_cons _ _ _ _).mp clean).2, by simpa using offence⟩
  · intro ⟨passed, kind, name, after, split, clean, offence⟩
    exact ⟨token :: passed, kind, name, after, by rw [split, List.cons_append],
      (clean_cons _ _ _ _).mpr ⟨quiet, clean⟩, by simpa using offence⟩

theorem clean_or_first_offence (declaration : Declaration) (before tokens : List Token) :
    Clean declaration before tokens ∨ ∃ error, FirstOffence declaration before tokens error := by
  induction tokens generalizing before with
  | nil => exact .inl (clean_nil declaration before)
  | cons token rest ih =>
      by_cases quiet : Quiet declaration before token
      · rcases ih (before ++ [token]) with clean | ⟨error, offence⟩
        · exact .inl ((clean_cons _ _ _ _).mpr ⟨quiet, clean⟩)
        · exact .inr ⟨error, (first_offence_quiet _ _ _ _ _ quiet).mpr offence⟩
      · simp only [Quiet, not_forall, not_not] at quiet
        obtain ⟨kind, name, rfl, error, offence⟩ := quiet
        exact .inr ⟨error, first_offence_here declaration before kind name rest error offence⟩

theorem clean_excludes_offence (declaration : Declaration) (before tokens : List Token) (error : RegistrationError)
    (clean : Clean declaration before tokens) : ¬ FirstOffence declaration before tokens error := by
  intro ⟨passed, kind, name, after, split, _, offence⟩
  exact clean passed (.placeholder kind name) after split kind name rfl error offence

theorem names_append (a b : List Token) : namesOf (a ++ b) = namesOf a ++ namesOf b := List.filterMap_append

theorem globs_append (a b : List Token) : globsOf (a ++ b) = globsOf a ++ globsOf b := List.filterMap_append

@[simp] theorem names_snoc_literal (tokens : List Token) (text : String) :
    namesOf (tokens ++ [.literal text]) = namesOf tokens :=
  (names_append tokens [.literal text]).trans (List.append_nil _)

@[simp] theorem globs_snoc_literal (tokens : List Token) (text : String) :
    globsOf (tokens ++ [.literal text]) = globsOf tokens :=
  (globs_append tokens [.literal text]).trans (List.append_nil _)

theorem mem_names (tokens : List Token) (name : String) :
    name ∈ namesOf tokens ↔ ∃ kind, .placeholder kind name ∈ tokens := by
  simp only [namesOf, List.mem_filterMap, Token.name_iff]
  constructor
  · rintro ⟨_, member, kind, rfl⟩
    exact ⟨kind, member⟩
  · intro ⟨kind, member⟩
    exact ⟨_, member, kind, rfl⟩

theorem mem_globs (tokens : List Token) (glob : String) :
    glob ∈ globsOf tokens ↔ .placeholder .glob glob ∈ tokens := by
  simp only [globsOf, List.mem_filterMap, Token.glob_iff, exists_eq_right]

-- The rules in their order: each one is only asked of a token that keeps to those before it.
theorem quiet_iff (declaration : Declaration) (before : List Token) (kind : PlaceholderKind) (name : String) :
    Quiet declaration before (.placeholder kind name) ↔
      ValidName name ∧ name ∉ namesOf before ∧ globsOf before = [] ∧
        ∀ pattern, declaration.requirements.pattern? name = some pattern → Compiles pattern := by
  constructor
  · intro quiet
    have none (error : RegistrationError) : ¬ Offence declaration before kind name error := quiet kind name rfl error
    have valid : ValidName name := by
      by_contra invalid
      by_cases empty : name = ""
      · subst empty
        exact none _ (.emptyName kind)
      · exact none _ (.invalidName kind name empty invalid)
    have fresh : name ∉ namesOf before := fun taken => none _ (.duplicateSegment kind name valid taken)
    have noGlob : globsOf before = [] := by
      refine List.eq_nil_iff_forall_not_mem.mpr fun glob member => ?_
      cases kind with
      | dynamic => exact none _ (.globBeforeDynamic name glob valid fresh member)
      | glob => exact none _ (.multipleGlobs name glob valid fresh member)
    refine ⟨valid, fresh, noGlob, fun pattern required => ?_⟩
    by_contra broken
    exact none _ (.invalidRequirement kind name pattern valid fresh noGlob required broken)
  · intro ⟨valid, fresh, noGlob, compiles⟩ _ _ same error offence
    cases same
    cases offence with
    | emptyName => exact valid.1 rfl
    | invalidName _ _ _ invalid => exact invalid valid
    | duplicateSegment _ _ _ taken => exact fresh taken
    | multipleGlobs _ glob _ _ member => simp [noGlob] at member
    | globBeforeDynamic _ glob _ _ member => simp [noGlob] at member
    | invalidRequirement _ _ pattern _ _ _ required broken => exact broken (compiles pattern required)

theorem clean_distinct (declaration : Declaration) (tokens : List Token) (clean : Clean declaration [] tokens) :
    (namesOf tokens).Nodup := by
  induction tokens using List.reverseRecOn with
  | nil => exact List.nodup_nil
  | append_singleton tokens token ih =>
      obtain ⟨earlier, quiet⟩ := clean_snoc declaration tokens token clean
      cases token with
      | literal text => simpa only [names_snoc_literal] using ih earlier
      | placeholder kind name =>
          have fresh := ((quiet_iff declaration tokens kind name).mp quiet).2.1
          rw [names_append]
          exact (ih earlier).append (List.nodup_singleton name) (List.disjoint_singleton.mpr fresh)

theorem clean_one_glob (declaration : Declaration) (tokens : List Token) (clean : Clean declaration [] tokens) :
    (globsOf tokens).length ≤ 1 := by
  induction tokens using List.reverseRecOn with
  | nil => exact Nat.zero_le 1
  | append_singleton tokens token ih =>
      obtain ⟨earlier, quiet⟩ := clean_snoc declaration tokens token clean
      cases token with
      | literal text => simpa only [globs_snoc_literal] using ih earlier
      | placeholder kind name =>
          have noGlob := ((quiet_iff declaration tokens kind name).mp quiet).2.2.1
          rw [globs_append, noGlob]
          exact List.length_filterMap_le Token.glob? [.placeholder kind name]

theorem clean_of_grammatical (declaration : Declaration) (good : Grammatical declaration) :
    Clean declaration [] declaration.tokens := by
  intro passed token after split
  cases token with
  | literal text => intro kind name same; cases same
  | placeholder kind name =>
      have member : .placeholder kind name ∈ declaration.tokens := by simp [split]
      have distinct := good.distinct
      have oneGlob := good.oneGlob
      rw [split, names_append] at distinct
      rw [split, globs_append, List.length_append] at oneGlob
      refine (quiet_iff declaration passed kind name).mpr ⟨good.valid kind name member, ?_, ?_, good.compiles name⟩
      · intro taken
        exact (List.nodup_append.mp distinct).2.2 name taken name List.mem_cons_self rfl
      · refine List.eq_nil_iff_forall_not_mem.mpr fun glob taken => ?_
        cases kind with
        | dynamic =>
            obtain ⟨first, rest, parts⟩ := List.append_of_mem ((mem_globs passed glob).mp taken)
            refine good.globLast first glob (rest ++ .placeholder .dynamic name :: after) ?_ name (by simp)
            rw [split, parts, List.append_assoc, List.cons_append]
        | glob =>
            have earlier := List.length_pos_of_mem taken
            have here : 0 < (globsOf (.placeholder .glob name :: after)).length := Nat.succ_pos _
            omega

theorem grammatical_of_clean (declaration : Declaration) (clean : Clean declaration [] declaration.tokens)
    (known : ∀ name, ¬ Stray declaration name) : Grammatical declaration := by
  have quiet (kind : PlaceholderKind) (name : String) (member : .placeholder kind name ∈ declaration.tokens) :
      ∃ before, Quiet declaration before (.placeholder kind name) := by
    obtain ⟨before, after, split⟩ := List.append_of_mem member
    exact ⟨before, clean before _ after split⟩
  have named (name pattern : String) (required : declaration.requirements.pattern? name = some pattern) :
      name ∈ namesOf declaration.tokens := by
    by_contra absent
    exact known name ⟨⟨pattern, required⟩, absent⟩
  refine ⟨?_, clean_distinct declaration _ clean, clean_one_glob declaration _ clean, ?_, named, ?_⟩
  · intro kind name member
    obtain ⟨before, silent⟩ := quiet kind name member
    exact ((quiet_iff declaration before kind name).mp silent).1
  · intro before glob after split name member
    obtain ⟨first, rest, parts⟩ := List.append_of_mem member
    have silent := clean (before ++ .placeholder .glob glob :: first) (.placeholder .dynamic name) rest
      (by rw [split, parts, List.append_assoc, List.cons_append])
    have noGlob := ((quiet_iff declaration _ .dynamic name).mp silent).2.2.1
    rw [List.nil_append, globs_append] at noGlob
    exact List.cons_ne_nil _ _ (List.append_eq_nil_iff.mp noGlob).2
  · intro name pattern required
    obtain ⟨kind, member⟩ := (mem_names _ name).mp (named name pattern required)
    obtain ⟨before, silent⟩ := quiet kind name member
    exact ((quiet_iff declaration before kind name).mp silent).2.2.2 pattern required

theorem grammatical_iff_clean (declaration : Declaration) :
    Grammatical declaration ↔ Clean declaration [] declaration.tokens ∧ ∀ name, ¬ Stray declaration name := by
  constructor
  · intro good
    refine ⟨clean_of_grammatical declaration good, ?_⟩
    intro name ⟨⟨pattern, required⟩, absent⟩
    exact absent (good.known name pattern required)
  · intro ⟨clean, known⟩
    exact grammatical_of_clean declaration clean known

theorem placeholder_iff_marked (text name : String) : (∃ kind, Token.ofText text = .placeholder kind name) ↔ Marked text name := by
  rw [Marked, ← Token.of_text_dynamic_iff, ← Token.of_text_glob_iff]
  constructor
  · rintro ⟨_ | _, same⟩
    · exact .inl same
    · exact .inr same
  · rintro (same | same)
    · exact ⟨.dynamic, same⟩
    · exact ⟨.glob, same⟩

section Texts

variable (texts : List String)

theorem mem_names_iff_marked (name : String) :
    name ∈ namesOf (texts.map Token.ofText) ↔ ∃ text ∈ texts, Marked text name := by
  simp only [namesOf, List.filterMap_map, List.mem_filterMap, Function.comp_apply, Token.name_iff, placeholder_iff_marked]

theorem names_distinct_iff_marked : (namesOf (texts.map Token.ofText)).Nodup ↔
    texts.Pairwise fun first later => ∀ name, Marked first name → ¬ Marked later name := by
  rw [namesOf, List.filterMap_map, List.Nodup, List.pairwise_filterMap]
  simp only [Function.comp_apply, Token.name_iff, placeholder_iff_marked]
  apply List.Pairwise.iff
  intro first later
  constructor
  · intro apart name marked again
    exact apart name marked name again rfl
  · rintro apart name marked _ again rfl
    exact apart name marked again

end Texts

-- Two globs are a glob that a placeholder follows as well.
theorem glob_last_iff (tokens : List Token) :
    ((globsOf tokens).length ≤ 1 ∧
        ∀ before glob after, tokens = before ++ .placeholder .glob glob :: after → ∀ name, .placeholder .dynamic name ∉ after) ↔
      tokens.Pairwise fun first later => ∀ glob name, first = .placeholder .glob glob → ¬ ∃ kind, later = .placeholder kind name := by
  constructor
  · intro ⟨one, last⟩
    refine List.pairwise_iff_forall_sublist.mpr ?_
    rintro _ _ listed glob name rfl ⟨kind, rfl⟩
    cases kind with
    | glob =>
        have two : 2 ≤ (globsOf tokens).length := (listed.filterMap Token.glob?).length_le
        omega
    | dynamic =>
        obtain ⟨front, back, whole, member, behind⟩ := List.cons_sublist_iff.mp listed
        obtain ⟨before, between, split⟩ := List.append_of_mem member
        refine last before glob (between ++ back) ?_ name (List.mem_append_right _ (List.singleton_sublist.mp behind))
        rw [whole, split, List.append_assoc, List.cons_append]
  · intro apart
    constructor
    · have none : (globsOf tokens).Pairwise fun _ _ => False := by
        refine List.pairwise_filterMap.mpr (apart.imp fun {first later} separate glob isGlob other isOther => ?_)
        rw [Token.glob_iff] at isGlob isOther
        exact separate glob other isGlob ⟨.glob, isOther⟩
      cases listed : globsOf tokens with
      | nil => exact Nat.zero_le 1
      | cons first rest =>
          rw [listed] at none
          have alone : rest = [] := List.eq_nil_iff_forall_not_mem.mpr (List.pairwise_cons.mp none).1
          rw [alone, List.length_singleton]
    · rintro before glob after rfl name member
      have behind := (List.pairwise_cons.mp (List.pairwise_append.mp apart).2.1).1 _ member
      exact behind glob name rfl ⟨.dynamic, rfl⟩

theorem grammatical_iff_well_written (declaration : Declaration) : Grammatical declaration ↔ WellWritten declaration := by
  have valid : (∀ kind name, .placeholder kind name ∈ declaration.tokens → ValidName name) ↔
      ∀ text ∈ Text.components declaration.template, ∀ name, Marked text name → ValidName name := by
    simp only [Declaration.tokens, Token.ofTemplate, List.mem_map, ← placeholder_iff_marked]
    constructor
    · intro good text member name ⟨kind, same⟩
      exact good kind name ⟨text, member, same⟩
    · intro good kind name ⟨text, member, same⟩
      exact good text member name ⟨kind, same⟩
  have distinct := names_distinct_iff_marked (Text.components declaration.template)
  have globLast := glob_last_iff declaration.tokens
  rw [Declaration.tokens, Token.ofTemplate, List.pairwise_map] at globLast
  simp only [Token.of_text_glob_iff, placeholder_iff_marked] at globLast
  have known (name : String) := mem_names_iff_marked (Text.components declaration.template) name
  constructor
  · intro good
    exact ⟨valid.mp good.valid, distinct.mp good.distinct, globLast.mp ⟨good.oneGlob, good.globLast⟩,
      fun name pattern required => (known name).mp (good.known name pattern required), good.compiles⟩
  · intro good
    obtain ⟨one, last⟩ := globLast.mpr good.globLast
    exact ⟨valid.mpr good.valid, distinct.mpr good.distinct, one, last,
      fun name pattern required => (known name).mpr (good.known name pattern required), good.compiles⟩

end PathTemplates
