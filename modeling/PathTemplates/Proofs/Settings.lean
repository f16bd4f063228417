import PathTemplates.Environment
import PathTemplates.Proofs.Numerals

set_option autoImplicit false

/-!
Settings from variables. Each part of a configuration follows the one variable of its name: what stands there between blanks is a word
for yes or no, or a numeral below 2 to the 64th, and the part is at its default for all else. A number is read back however it is
written, with zeros in front and among blanks.
-/

namespace PathTemplates

-- The characters that count as blank in text.
def Blank (c : Char) : Prop :=
  9 ≤ c.toNat ∧ c.toNat ≤ 13 ∨ 0x2000 ≤ c.toNat ∧ c.toNat ≤ 0x200A ∨
    c.toNat ∈ [0x20, 0x85, 0xA0, 0x1680, 0x2028, 0x2029, 0x202F, 0x205F, 0x3000]

instance (c : Char) : Decidable (Blank c) := inferInstanceAs (Decidable (_ ∨ _ ∨ _))

theorem white_space_iff (c : Char) : Unicode.Property.whiteSpace.contains c = true ↔ Blank c := by
  have ranges : Unicode.Property.whiteSpace.ranges =
      [⟨9, 13⟩, ⟨0x20, 0x20⟩, ⟨0x85, 0x85⟩, ⟨0xA0, 0xA0⟩, ⟨0x1680, 0x1680⟩, ⟨0x2000, 0x200A⟩, ⟨0x2028, 0x2029⟩, ⟨0x202F, 0x202F⟩,
        ⟨0x205F, 0x205F⟩, ⟨0x3000, 0x3000⟩] := by
    decide +kernel
  simp only [CharSet.contains, CharSet.hasCode, ranges, CodeRange.contains, Blank, List.any_cons, List.any_nil, Bool.or_eq_true,
    Bool.and_eq_true, decide_eq_true_eq, List.mem_cons, List.not_mem_nil, Bool.false_eq_true, or_false]
  omega

namespace Text

theorem digit_not_blank (base : Nat) (small : base ≤ 16) (value : Nat) (c : Char) (digit : Digit base value c) : ¬ Blank c := by
  have marks : ∀ value < 16, ¬ Blank value.digitChar ∧ ¬ Blank value.digitChar.toUpper := by decide
  obtain ⟨less, rfl | rfl⟩ := digit
  · exact (marks value (by omega)).1
  · exact (marks value (by omega)).2

end Text

namespace Environment

-- What is left of a text without the blanks around it.
structure Trimmed (before text core after : List Char) : Prop where
  whole : text = before ++ core ++ after
  blankBefore : ∀ c ∈ before, Blank c
  blankAfter : ∀ c ∈ after, Blank c
  first : ∀ c, core.head? = some c → ¬ Blank c
  last : ∀ c, core.getLast? = some c → ¬ Blank c

theorem drop_blanks_before (before rest : List Char) (blank : ∀ c ∈ before, Blank c) (first : ∀ c, rest.head? = some c → ¬ Blank c) :
    (before ++ rest).dropWhile Unicode.Property.whiteSpace.contains = rest := by
  rw [List.dropWhile_append_of_pos fun c member => (white_space_iff c).mpr (blank c member)]
  cases rest with
  | nil => rfl
  | cons c rest => exact List.dropWhile_cons_of_neg fun white => first c rfl ((white_space_iff c).mp white)

theorem split_blanks_before (text : List Char) : ∃ before, text = before ++ text.dropWhile Unicode.Property.whiteSpace.contains ∧
    (∀ c ∈ before, Blank c) ∧ ∀ c, (text.dropWhile Unicode.Property.whiteSpace.contains).head? = some c → ¬ Blank c := by
  refine ⟨text.takeWhile Unicode.Property.whiteSpace.contains, List.takeWhile_append_dropWhile.symm, ?_, ?_⟩
  · intro c member
    exact (white_space_iff c).mp (List.mem_takeWhile_imp member)
  · intro c first
    have other := List.head?_dropWhile_not Unicode.Property.whiteSpace.contains text
    rw [first] at other
    rw [← white_space_iff, other]
    exact Bool.false_ne_true

theorem trim_iff (text core : List Char) : trim text = core ↔ ∃ before after, Trimmed before text core after := by
  constructor
  · rintro rfl
    obtain ⟨before, whole, blankBefore, first⟩ := split_blanks_before text
    obtain ⟨behind, rest, blankBehind, last⟩ := split_blanks_before (text.dropWhile Unicode.Property.whiteSpace.contains).reverse
    have parts : text.dropWhile Unicode.Property.whiteSpace.contains = trim text ++ behind.reverse := by
      rw [trim, ← List.reverse_append, ← rest, List.reverse_reverse]
    refine ⟨before, behind.reverse, ?_, blankBefore, fun c member => blankBehind c (List.mem_reverse.mp member), ?_, ?_⟩
    · rw [List.append_assoc, ← parts, ← whole]
    · intro c front
      apply first c
      rw [parts, List.head?_append, front, Option.some_or]
    · intro c front
      rw [trim, List.getLast?_reverse] at front
      exact last c front
  · rintro ⟨before, after, rfl, blankBefore, blankAfter, first, last⟩
    by_cases empty : core = []
    · have blank : ∀ c ∈ before ++ after, Blank c := List.forall_mem_append.mpr ⟨blankBefore, blankAfter⟩
      have nothing := drop_blanks_before (before ++ after) [] blank nofun
      rw [List.append_nil] at nothing
      rw [empty, List.append_nil, trim, nothing]
      rfl
    · have front := drop_blanks_before before (core ++ after) blankBefore fun c found =>
        first c (by rwa [List.head?_append_of_ne_nil _ empty] at found)
      have back := drop_blanks_before after.reverse core.reverse (fun c member => blankAfter c (List.mem_reverse.mp member))
        fun c found => last c (by rwa [List.head?_reverse] at found)
      rw [trim, List.append_assoc, front, List.reverse_append, back, List.reverse_reverse]

inductive MeansFlag : List Char → Bool → Prop
  | yes (text : List Char) (word : String) : word ∈ ["1", "true", "yes", "on"] → Text.Spells text word.toList → MeansFlag text true
  | no (text : List Char) (word : String) : word ∈ ["0", "false", "no", "off"] → Text.Spells text word.toList → MeansFlag text false

-- A numeral below 2 to the 64th, which is hexadecimal behind the mark `0x`.
inductive MeansSize : List Char → Nat → Prop
  | decimal (text : List Char) (n : Nat) : Text.Numeral 10 text n → n < 2 ^ 64 → MeansSize text n
  | hexadecimal (text : List Char) (n : Nat) : Text.Numeral 16 text n → n < 2 ^ 64 → MeansSize ('0' :: 'x' :: text) n

theorem one_of_words_iff (text : List Char) (words : List String)
    (small : ∀ word ∈ words, ∀ letter ∈ word.toList, letter.isUpper = false) :
    String.ofList (text.map Char.toLower) ∈ words ↔ ∃ word ∈ words, Text.Spells text word.toList := by
  constructor
  · intro member
    refine ⟨_, member, (Text.lower_spells_iff text _ (small _ member)).mp ?_⟩
    rw [String.toList_ofList]
  · rintro ⟨word, member, spells⟩
    rwa [(Text.lower_spells_iff text _ (small word member)).mpr spells, String.ofList_toList]

theorem flag_iff (text : List Char) (flag : Bool) : flag? text = some flag ↔ MeansFlag (trim text) flag := by
  have yes := one_of_words_iff (trim text) ["1", "true", "yes", "on"] (by simp)
  have no := one_of_words_iff (trim text) ["0", "false", "no", "off"] (by simp)
  have apart : ∀ word ∈ ["0", "false", "no", "off"], word ∉ ["1", "true", "yes", "on"] := by decide
  constructor
  · intro read
    simp only [flag?] at read
    split_ifs at read with affirmed denied
    · obtain rfl := Option.some.inj read
      obtain ⟨word, member, spells⟩ := yes.mp affirmed
      exact .yes _ word member spells
    · obtain rfl := Option.some.inj read
      obtain ⟨word, member, spells⟩ := no.mp denied
      exact .no _ word member spells
  · intro means
    cases means with
    | yes word member spells => exact if_pos (yes.mpr ⟨word, member, spells⟩)
    | no word member spells =>
        have denied := no.mpr ⟨word, member, spells⟩
        exact (if_neg (apart _ denied)).trans (if_pos denied)

-- A decimal numeral has no `x` in it, so that none is taken for a hexadecimal one.
theorem decimal_unmarked (digits : List Char) (n : Nat) : ¬ Text.Numeral 10 ('0' :: 'x' :: digits) n := by
  rintro ⟨_, numerals, rfl | rfl, same, _, denotes⟩
  · obtain rfl : _ = numerals := same
    obtain ⟨value, digit⟩ := Text.denotes_digits 10 _ n denotes 'x' (by simp)
    exact Text.no_digit 10 (by decide) 'x' rfl value digit
  · cases same

theorem size_iff (text : List Char) (n : Nat) : size? text = some n ↔ MeansSize (trim text) n := by
  have decimal := Text.numeral_iff 10 (by decide)
  have hexadecimal := Text.numeral_iff 16 (by decide)
  simp only [size?, Option.filter_eq_some_iff, decide_eq_true_eq]
  constructor
  · rintro ⟨read, small⟩
    split at read
    · rename_i digits marked
      rw [marked]
      exact .hexadecimal digits n ((hexadecimal digits n).mp read) small
    · exact .decimal _ n ((decimal _ n).mp read) small
  · intro means
    generalize trim text = core at means ⊢
    cases means with
    | decimal _ _ numeral small =>
        refine ⟨?_, small⟩
        split
        · exact absurd numeral (decimal_unmarked _ n)
        · exact (decimal _ n).mpr numeral
    | hexadecimal digits _ numeral small => exact ⟨(hexadecimal digits n).mpr numeral, small⟩

-- The number is taken up in a word, and is refused at the first digit that makes it too large.
def wordSize? (text : List Char) : Option UInt64 :=
  if (trim text).take 2 = ['0', 'x'] then Text.wordNumeral? 16 ((trim text).drop 2) else Text.wordNumeral? 10 (trim text)

theorem size_eq_word (text : List Char) : size? text = (wordSize? text).map UInt64.toNat := by
  have decimal := Text.word_numeral_eq 10 (by decide)
  have hexadecimal := Text.word_numeral_eq 16 (by decide)
  simp only [size?, wordSize?]
  generalize trim text = core
  split
  · rename_i digits
    exact (hexadecimal digits).symm
  · rename_i unmarked
    have noMark : core.take 2 ≠ ['0', 'x'] := by
      intro mark
      apply unmarked (core.drop 2)
      calc
        core = core.take 2 ++ core.drop 2 := (List.take_append_drop 2 core).symm
        _ = '0' :: 'x' :: core.drop 2 := congrArg (· ++ core.drop 2) mark
    rw [if_neg noMark]
    exact (decimal core).symm

-- A variable is set to a text that has nothing but blanks around the core.
def SetTo (variableBytes : Option ByteArray) (core : List Char) : Prop :=
  ∃ (text : String) (before after : List Char), variableBytes = some text.toUTF8 ∧ Trimmed before text.toList core after

-- A part is what its variable means, or its default where the variable means nothing.
inductive Decided {α : Type} (means : List Char → α → Prop) (default : α) (variableBytes : Option ByteArray) : α → Prop
  | meant (core : List Char) (value : α) : SetTo variableBytes core → means core value → Decided means default variableBytes value
  | left : (∀ core value, SetTo variableBytes core → ¬ means core value) → Decided means default variableBytes default

theorem text_of_bytes_iff (bytes : ByteArray) (text : String) : String.fromUTF8? bytes = some text ↔ bytes = text.toUTF8 := by
  constructor
  · intro read
    obtain ⟨valid, same⟩ := Option.dite_none_right_eq_some.mp read
    obtain rfl := Option.some.inj same
    rfl
  · rintro rfl
    exact dif_pos text.isValidUTF8

section Part

variable {α : Type} (parse : List Char → Option α) (means : List Char → α → Prop)
  (exact : ∀ text value, parse text = some value ↔ means (trim text) value)

include exact

theorem accepted_iff (text : List Char) (value : α) :
    parse text = some value ↔ ∃ before core after, Trimmed before text core after ∧ means core value := by
  rw [exact]
  constructor
  · intro meant
    obtain ⟨before, after, trimmed⟩ := (trim_iff text _).mp rfl
    exact ⟨before, _, after, trimmed, meant⟩
  · rintro ⟨before, core, after, trimmed, meant⟩
    rwa [(trim_iff text core).mpr ⟨before, after, trimmed⟩]

theorem found_iff (variableBytes : Option ByteArray) (value : α) :
    ((variableBytes.bind String.fromUTF8?).bind fun text => parse text.toList) = some value ↔
      ∃ core, SetTo variableBytes core ∧ means core value := by
  simp only [Option.bind_eq_some_iff, text_of_bytes_iff, exact]
  constructor
  · rintro ⟨text, ⟨_, given, rfl⟩, meant⟩
    obtain ⟨before, after, trimmed⟩ := (trim_iff _ _).mp rfl
    exact ⟨trim text.toList, ⟨text, before, after, given, trimmed⟩, meant⟩
  · rintro ⟨core, ⟨text, before, after, given, trimmed⟩, meant⟩
    obtain rfl := (trim_iff _ _).mpr ⟨before, after, trimmed⟩
    exact ⟨text, ⟨_, given, rfl⟩, meant⟩

theorem read_iff (default : α) (variableBytes : Option ByteArray) (value : α) :
    read parse variableBytes default = value ↔ Decided means default variableBytes value := by
  have found := found_iff parse means exact variableBytes
  unfold read
  cases outcome : (variableBytes.bind String.fromUTF8?).bind fun text => parse text.toList with
  | none =>
      rw [outcome] at found
      constructor
      · rintro rfl
        exact .left fun core value given meant => absurd ((found value).mpr ⟨core, given, meant⟩) nofun
      · intro decided
        cases decided with
        | meant core _ given meant => exact absurd ((found value).mpr ⟨core, given, meant⟩) nofun
        | left _ => rfl
  | some known =>
      rw [outcome] at found
      obtain ⟨core, given, meant⟩ := (found known).mp rfl
      constructor
      · rintro rfl
        exact .meant core known given meant
      · intro decided
        cases decided with
        | meant other _ otherSetTo otherMeant => exact Option.some.inj ((found value).mpr ⟨other, otherSetTo, otherMeant⟩)
        | left nothing => exact absurd meant (nothing core known given)

end Part

-- The numerals of a number, with any zeros in front of it and, in hexadecimal, with capitals or without.
inductive Writes (n : Nat) : List Char → Prop
  | decimal (zeros : Nat) : Writes n (List.replicate zeros '0' ++ Nat.toDigits 10 n)
  | hexadecimal (zeros : Nat) (digits : List Char) : Text.Spells digits (Nat.toDigits 16 n) →
      Writes n ('0' :: 'x' :: (List.replicate zeros '0' ++ digits))

theorem writes_means (n : Nat) (core : List Char) (small : n < 2 ^ 64) (writes : Writes n core) : MeansSize core n := by
  cases writes with
  | decimal zeros =>
      have denotes := Text.denotes_zeros 10 (by decide) zeros _ n (Text.denotes_to_digits 10 (by decide) n)
      refine .decimal _ n ⟨[], _, .inl rfl, rfl, fun empty => ?_, denotes⟩ small
      exact Nat.toDigits_ne_nil (List.append_eq_nil_iff.mp empty).2
  | hexadecimal zeros digits spells =>
      have own := Text.denotes_spelled 16 (by decide) _ digits n (Text.denotes_to_digits 16 (by decide) n) spells
      have denotes := Text.denotes_zeros 16 (by decide) zeros digits n own
      refine .hexadecimal _ n ⟨[], _, .inl rfl, rfl, fun empty => ?_, denotes⟩ small
      obtain rfl := (List.append_eq_nil_iff.mp empty).2
      exact Nat.toDigits_ne_nil (List.forall₂_nil_left_iff.mp spells)

theorem numeral_not_blank (base : Nat) (small : base ≤ 16) (text : List Char) (n : Nat) (numeral : Text.Numeral base text n)
    (c : Char) (member : c ∈ text) : ¬ Blank c := by
  obtain ⟨plus, digits, sign, rfl, _, denotes⟩ := numeral
  rcases List.mem_append.mp member with inFront | behind
  · rcases sign with rfl | rfl
    · cases inFront
    · rw [List.mem_singleton.mp inFront]
      decide
  · obtain ⟨value, digit⟩ := Text.denotes_digits base digits n denotes c behind
    exact Text.digit_not_blank base small value c digit

theorem size_not_blank (text : List Char) (n : Nat) (means : MeansSize text n) (c : Char) (member : c ∈ text) : ¬ Blank c := by
  cases means with
  | decimal _ _ numeral _ => exact numeral_not_blank 10 (by decide) text n numeral c member
  | hexadecimal digits _ numeral _ =>
      rcases List.mem_cons.mp member with rfl | behind
      · decide
      · rcases List.mem_cons.mp behind with rfl | inside
        · decide
        · exact numeral_not_blank 16 (by decide) digits n numeral c inside

-- What each part of a configuration is, by the variable of its name alone.
structure FollowsVariables (bytes? : String → Option ByteArray) (config : Config) : Prop where
  minimize : ∀ flag, config.minimize = flag ↔ Decided MeansFlag true (bytes? "ROUTEGEN_MINIMIZATION") flag
  explicit : ∀ flag, config.explicit = flag ↔ Decided MeansFlag false (bytes? "ROUTEGEN_EXPLICIT") flag
  appendSlash : ∀ flag, config.appendSlash = flag ↔ Decided MeansFlag false (bytes? "ROUTEGEN_APPEND_SLASH") flag
  cacheSize : ∀ size, config.cacheSize = size ↔ Decided MeansSize 1000 (bytes? "ROUTEGEN_CACHE_SIZE") size

-- Parts are alike where their variables are, whatever the other variables are.
structure PartwiseAlike (bytes? other? : String → Option ByteArray) (config otherConfig : Config) : Prop where
  minimize : bytes? "ROUTEGEN_MINIMIZATION" = other? "ROUTEGEN_MINIMIZATION" → config.minimize = otherConfig.minimize
  explicit : bytes? "ROUTEGEN_EXPLICIT" = other? "ROUTEGEN_EXPLICIT" → config.explicit = otherConfig.explicit
  appendSlash : bytes? "ROUTEGEN_APPEND_SLASH" = other? "ROUTEGEN_APPEND_SLASH" → config.appendSlash = otherConfig.appendSlash
  cacheSize : bytes? "ROUTEGEN_CACHE_SIZE" = other? "ROUTEGEN_CACHE_SIZE" → config.cacheSize = otherConfig.cacheSize

theorem follows_variables (bytes? : String → Option ByteArray) : FollowsVariables bytes? (ofVariables bytes?).config where
  minimize := read_iff flag? MeansFlag flag_iff true _
  explicit := read_iff flag? MeansFlag flag_iff false _
  appendSlash := read_iff flag? MeansFlag flag_iff false _
  cacheSize := read_iff size? MeansSize size_iff 1000 _

theorem partwise_alike (bytes? other? : String → Option ByteArray) :
    PartwiseAlike bytes? other? (ofVariables bytes?).config (ofVariables other?).config where
  minimize same := congrArg (read flag? · true) same
  explicit same := congrArg (read flag? · false) same
  appendSlash same := congrArg (read flag? · false) same
  cacheSize same := congrArg (read size? · 1000) same

theorem settings_follow_variables (bytes? : String → Option ByteArray) :
    FollowsVariables bytes? (ofVariables bytes?).config ∧
      (∀ other? : String → Option ByteArray,
        PartwiseAlike bytes? other? (ofVariables bytes?).config (ofVariables other?).config) ∧
      (∀ text flag, flag? text = some flag ↔ ∃ before core after, Trimmed before text core after ∧ MeansFlag core flag) ∧
      (∀ text size, size? text = some size ↔ ∃ before core after, Trimmed before text core after ∧ MeansSize core size) ∧
      (∀ text, size? text = (wordSize? text).map UInt64.toNat) ∧
      ∀ n < 2 ^ 64, ∀ before core after, (∀ c ∈ before, Blank c) → Writes n core → (∀ c ∈ after, Blank c) →
        bytes? "ROUTEGEN_CACHE_SIZE" = some (String.ofList (before ++ core ++ after)).toUTF8 →
          (ofVariables bytes?).config.cacheSize = n := by
  refine ⟨follows_variables bytes?, partwise_alike bytes?, accepted_iff flag? MeansFlag flag_iff,
    accepted_iff size? MeansSize size_iff, size_eq_word, ?_⟩
  intro n small before core after blankBefore writes blankAfter given
  have means := writes_means n core small writes
  have solid := size_not_blank core n means
  apply ((follows_variables bytes?).cacheSize n).mpr
  refine .meant core n ⟨_, before, after, given, ?_, blankBefore, blankAfter, ?_, ?_⟩ means
  · exact String.toList_ofList
  · exact fun c first => solid c (List.mem_of_mem_head? first)
  · exact fun c last => solid c (List.mem_of_getLast? last)

-- The greatest size that a word holds, among blanks, with zeros in front of it and half of it in capitals.
def greatestSize : String → Option ByteArray
  | "ROUTEGEN_CACHE_SIZE" => some "\t0x00FFFFFFFFffffffff \n".toUTF8
  | _ => none

theorem settings_follow_variables_to_greatest_size :
    (∀ c ∈ ['\t'], Blank c) ∧ Writes (2 ^ 64 - 1) ('0' :: 'x' :: (List.replicate 2 '0' ++ "FFFFFFFFffffffff".toList)) ∧
      (∀ c ∈ [' ', '\n'], Blank c) ∧ (ofVariables greatestSize).config.cacheSize = 2 ^ 64 - 1 ∧
      greatestSize "ROUTEGEN_EXPLICIT" = none ∧
      (ofVariables greatestSize).config.explicit = (ofVariables fun _ => none).config.explicit := by
  have before : ∀ c ∈ ['\t'], Blank c := by simp [Blank]
  have after : ∀ c ∈ [' ', '\n'], Blank c := by simp [Blank]
  have spells : Text.Spells "FFFFFFFFffffffff".toList (Nat.toDigits 16 (2 ^ 64 - 1)) := by
    have digits : Nat.toDigits 16 (2 ^ 64 - 1) = List.replicate 16 'f' := by decide +kernel
    rw [digits, Text.Spells]
    simp
  have writes : Writes (2 ^ 64 - 1) ('0' :: 'x' :: (List.replicate 2 '0' ++ "FFFFFFFFffffffff".toList)) := .hexadecimal 2 _ spells
  have follows := settings_follow_variables greatestSize
  exact ⟨before, writes, after, follows.2.2.2.2.2 _ (by decide) _ _ _ before writes after rfl, rfl, (follows.2.1 _).explicit rfl⟩

end Environment

end PathTemplates
