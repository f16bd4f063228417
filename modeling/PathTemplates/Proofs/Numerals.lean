import Mathlib
import PathTemplates.Text.Numeral

set_option autoImplicit false

/-!
What numerals denote. A digit weighs as much as the base in each place more than in the place behind it, and its letter may be a
capital. A number has many numerals, for zeros in front weigh nothing, but just one decimal numeral without a needless zero. A word
that takes up digit after digit outgrows its 64 bits just where the number does.
-/

namespace PathTemplates.Text

-- The characters that stand for a digit: its own, and the capital of it if it is a letter.
def Digit (base value : Nat) (c : Char) : Prop := value < base ∧ (c = value.digitChar ∨ c = value.digitChar.toUpper)

-- The values of the digits are listed from the last digit on, which weighs least.
def Denotes (base : Nat) (digits : List Char) (n : Nat) : Prop :=
  ∃ values, List.Forall₂ (Digit base) values digits.reverse ∧ Nat.ofDigits base values = n

-- The letters of a word, each small or capital.
def Spells (text word : List Char) : Prop := List.Forall₂ (fun c letter => c = letter ∨ c = letter.toUpper) text word

-- One digit or more, behind a plus or not.
def Numeral (base : Nat) (text : List Char) (n : Nat) : Prop :=
  ∃ plus digits, (plus = [] ∨ plus = ['+']) ∧ text = plus ++ digits ∧ digits ≠ [] ∧ Denotes base digits n

-- A decimal numeral in which a zero stands in front only where it is all there is.
structure Shortest (digits : List Char) (n : Nat) : Prop where
  denotes : Denotes 10 digits n
  nonempty : digits ≠ []
  tight : digits.head? = some '0' → digits = ['0']

-- Takes one more digit into a word of 64 bits, unless the number outgrows it.
def takeDigit (base : Nat) (word : UInt64) (c : Char) : Option UInt64 :=
  (digit? base c).bind fun value =>
    let product := base * word.toNat
    if product < UInt64.size ∧ product + value < UInt64.size then some (.ofNat (product + value)) else none

def wordOfDigits? (base : Nat) (digits : List Char) : Option UInt64 := digits.foldlM (takeDigit base) 0

def wordNumeral? (base : Nat) (text : List Char) : Option UInt64 :=
  let digits := if text.head? = some '+' then text.tail else text
  if digits = [] then none else wordOfDigits? base digits

theorem ascii_all (holds : Char → Prop) (checked : ∀ code < 128, holds (Char.ofNat code)) (c : Char) (ascii : c.toNat < 128) :
    holds c := by
  have known := checked c.toNat ascii
  rwa [Char.ofNat_toNat] at known

theorem digit_ascii (c : Char) (value : Nat) (found : digit? 16 c = some value) : c.toNat < 128 := by
  by_contra large
  have code : c.val.toNat = c.toNat := rfl
  have noDigit : c.isDigit = false := by
    simp [Char.isDigit, UInt32.le_iff_toNat_le]
    omega
  have noSmall : c.isLower = false := by
    simp [Char.isLower, UInt32.le_iff_toNat_le]
    omega
  have noCapital : c.isUpper = false := by
    simp [Char.isUpper, UInt32.le_iff_toNat_le]
    omega
  simp [digit?, noDigit, noSmall, noCapital] at found

theorem digit_char_ascii : ∀ value < 16, value.digitChar.toNat < 128 ∧ value.digitChar.toUpper.toNat < 128 := by
  decide

theorem ascii_digit_iff (value : Nat) (small : value < 16) (c : Char) (ascii : c.toNat < 128) :
    digit? 16 c = some value ↔ c = value.digitChar ∨ c = value.digitChar.toUpper := by
  revert value
  apply ascii_all _ _ c ascii
  decide +kernel

theorem lower_iff (c letter : Char) (small : letter.isUpper = false) : c.toLower = letter ↔ c = letter ∨ c = letter.toUpper := by
  constructor
  · rintro rfl
    by_cases capital : c.isUpper = true
    · have notSmall : ¬ c.isLower = true := by
        simp only [Char.isUpper, Char.isLower, Bool.and_eq_true, decide_eq_true_eq, ge_iff_le] at capital ⊢
        exact fun lower => absurd (UInt32.le_trans lower.1 capital.2) (by decide)
      exact .inr (by rw [Char.toUpper_toLower_eq_toUpper, Char.toUpper_eq_of_not_isLower notSmall])
    · exact .inl (Char.toLower_eq_of_not_isUpper capital).symm
  · have own : letter.toLower = letter := Char.toLower_eq_of_not_isUpper (by simp [small])
    rintro (rfl | rfl)
    · exact own
    · rw [Char.toLower_toUpper_eq_toLower, own]

theorem lower_spells_iff (text word : List Char) (small : ∀ letter ∈ word, letter.isUpper = false) :
    text.map Char.toLower = word ↔ Spells text word := by
  induction text generalizing word with
  | nil => simp [Spells, eq_comm]
  | cons c rest ih =>
      cases word with
      | nil => simp [Spells]
      | cons letter letters =>
          obtain ⟨here, later⟩ := List.forall_mem_cons.mp small
          rw [List.map_cons, List.cons.injEq, lower_iff c letter here, ih letters later, Spells, Spells, List.forall₂_cons]

section Base

variable (base : Nat)

theorem of_digits_snoc (digits : List Char) (c : Char) :
    ofDigits? base (digits ++ [c]) = (ofDigits? base digits).bind fun value => (digit? base c).map (base * value + ·) := by
  simp [ofDigits?, List.foldlM_append]

theorem denotes_nil_iff (n : Nat) : Denotes base [] n ↔ n = 0 := by
  simp [Denotes, eq_comm]

theorem denotes_snoc_iff (digits : List Char) (c : Char) (n : Nat) :
    Denotes base (digits ++ [c]) n ↔
      ∃ before value, Denotes base digits before ∧ Digit base value c ∧ base * before + value = n := by
  simp only [Denotes, List.reverse_append, List.reverse_singleton, List.singleton_append, List.forall₂_cons_right_iff]
  constructor
  · rintro ⟨_, ⟨value, values, digit, others, rfl⟩, rfl⟩
    exact ⟨_, value, ⟨values, others, rfl⟩, digit, by rw [Nat.ofDigits_cons, Nat.add_comm]⟩
  · rintro ⟨_, value, ⟨values, others, rfl⟩, digit, rfl⟩
    exact ⟨_, ⟨value, values, digit, others, rfl⟩, by rw [Nat.ofDigits_cons, Nat.add_comm]⟩

theorem denotes_digits (digits : List Char) (n : Nat) (denotes : Denotes base digits n) (c : Char)
    (member : c ∈ digits) : ∃ value, Digit base value c := by
  induction digits using List.reverseRecOn generalizing n with
  | nil => cases member
  | append_singleton front last ih =>
      obtain ⟨before, value, frontDenotes, digit, _⟩ := (denotes_snoc_iff base front last n).mp denotes
      rcases List.mem_append.mp member with inFront | atEnd
      · exact ih before frontDenotes inFront
      · exact ⟨value, List.mem_singleton.mp atEnd ▸ digit⟩

theorem denotes_zeros (positive : 0 < base) (zeros : Nat) (digits : List Char) (n : Nat) (denotes : Denotes base digits n) :
    Denotes base (List.replicate zeros '0' ++ digits) n := by
  obtain ⟨values, spelled, rfl⟩ := denotes
  refine ⟨values ++ List.replicate zeros 0, ?_, Nat.ofDigits_append_replicate_zero values⟩
  rw [List.reverse_append, List.reverse_replicate]
  apply List.rel_append spelled
  induction zeros with
  | zero => exact .nil
  | succ zeros ih => exact .cons ⟨positive, .inl rfl⟩ ih

theorem denotes_to_digits (large : 1 < base) (n : Nat) : Denotes base (Nat.toDigits base n) n := by
  induction n using Nat.strong_induction_on with
  | h n ih =>
      rw [Nat.toDigits_eq_if large]
      by_cases single : n < base
      · rw [if_pos single]
        exact (denotes_snoc_iff base [] _ n).mpr ⟨0, n, (denotes_nil_iff base 0).mpr rfl, ⟨single, .inl rfl⟩, by omega⟩
      · have less : n / base < n := Nat.div_lt_self (by omega) large
        rw [if_neg single]
        exact (denotes_snoc_iff base _ _ n).mpr
          ⟨n / base, n % base, ih _ less, ⟨Nat.mod_lt n (by omega), .inl rfl⟩, Nat.div_add_mod n base⟩

variable (small : base ≤ 16)

include small

theorem digit_below_iff (c : Char) (value : Nat) :
    digit? base c = some value ↔ digit? 16 c = some value ∧ value < base := by
  simp only [digit?, Option.filter_eq_some_iff, decide_eq_true_eq]
  constructor
  · intro ⟨found, less⟩
    exact ⟨⟨found, by omega⟩, less⟩
  · intro ⟨⟨found, _⟩, less⟩
    exact ⟨found, less⟩

theorem digit_iff (c : Char) (value : Nat) : digit? base c = some value ↔ Digit base value c := by
  rw [digit_below_iff base small, Digit, and_comm]
  apply and_congr_right
  intro less
  have bounds := digit_char_ascii value (by omega)
  constructor
  · intro found
    exact (ascii_digit_iff value (by omega) c (digit_ascii c value found)).mp found
  · intro spelled
    have ascii : c.toNat < 128 := by
      rcases spelled with same | same <;> rw [same]
      · exact bounds.1
      · exact bounds.2
    exact (ascii_digit_iff value (by omega) c ascii).mpr spelled

theorem no_digit (c : Char) (other : digit? base c = none) (value : Nat) :
    ¬ Digit base value c := by
  rw [← digit_iff base small, other]
  exact nofun

-- By induction on the digits from the last one on, which is read after all others.
theorem of_digits_iff (digits : List Char) (n : Nat) :
    ofDigits? base digits = some n ↔ Denotes base digits n := by
  induction digits using List.reverseRecOn generalizing n with
  | nil => simp [denotes_nil_iff, ofDigits?, eq_comm]
  | append_singleton digits c ih =>
      simp only [of_digits_snoc, denotes_snoc_iff, Option.bind_eq_some_iff, Option.map_eq_some_iff, ih, digit_iff base small]
      constructor
      · rintro ⟨before, front, value, digit, same⟩
        exact ⟨before, value, front, digit, same⟩
      · rintro ⟨before, value, front, digit, same⟩
        exact ⟨before, front, value, digit, same⟩

theorem numeral_iff (text : List Char) (n : Nat) :
    numeral? base text = some n ↔ Numeral base text n := by
  constructor
  · intro read
    unfold numeral? at read
    by_cases plus : text.head? = some '+'
    · obtain ⟨digits, rfl⟩ := List.head?_eq_some_iff.mp plus
      rw [if_pos plus] at read
      obtain ⟨nonempty, denotes⟩ := Option.ite_none_left_eq_some.mp read
      exact ⟨['+'], digits, .inr rfl, rfl, nonempty, (of_digits_iff base small digits n).mp denotes⟩
    · rw [if_neg plus] at read
      obtain ⟨nonempty, denotes⟩ := Option.ite_none_left_eq_some.mp read
      exact ⟨[], text, .inl rfl, rfl, nonempty, (of_digits_iff base small text n).mp denotes⟩
  · rintro ⟨_, digits, rfl | rfl, same, nonempty, denotes⟩
    · obtain rfl : text = digits := same
      have noPlus : text.head? ≠ some '+' := by
        intro plus
        obtain ⟨value, digit⟩ := denotes_digits base text n denotes '+' (List.mem_of_mem_head? plus)
        exact no_digit base small '+' rfl value digit
      rw [numeral?, if_neg noPlus]
      exact (if_neg nonempty).trans ((of_digits_iff base small text n).mpr denotes)
    · rw [same]
      exact (if_neg nonempty).trans ((of_digits_iff base small digits n).mpr denotes)

theorem digit_capital (value : Nat) (c : Char) (digit : Digit base value c) :
    Digit base value c.toUpper := by
  have capitals : ∀ value < 16, value.digitChar.toUpper.toUpper = value.digitChar.toUpper := by decide
  obtain ⟨less, rfl | rfl⟩ := digit
  · exact ⟨less, .inr rfl⟩
  · exact ⟨less, .inr (capitals value (by omega))⟩

theorem digits_spelled (values : List Nat) (digits text : List Char)
    (written : List.Forall₂ (Digit base) values digits) (spells : Spells text digits) :
    List.Forall₂ (Digit base) values text := by
  induction written generalizing text with
  | nil =>
      cases spells
      exact .nil
  | cons digit _ ih =>
      cases spells with
      | cons same rest =>
          refine .cons ?_ (ih _ rest)
          rcases same with rfl | rfl
          · exact digit
          · exact digit_capital base small _ _ digit

theorem denotes_spelled (digits text : List Char) (n : Nat) (denotes : Denotes base digits n)
    (spells : Spells text digits) : Denotes base text n := by
  obtain ⟨values, written, sum⟩ := denotes
  exact ⟨values, digits_spelled base small values _ _ written (List.rel_reverse spells), sum⟩

end Base

theorem zero_in_front_iff (n : Nat) : (Nat.toDigits 10 n).head? = some '0' ↔ n = 0 := by
  induction n using Nat.strong_induction_on with
  | h n ih =>
      rw [Nat.toDigits_eq_if (by decide)]
      by_cases single : n < 10
      · have digits : ∀ n < 10, [n.digitChar].head? = some '0' ↔ n = 0 := by decide
        rw [if_pos single, digits n single]
      · have less : n / 10 < n := by omega
        rw [if_neg single, List.head?_append_of_ne_nil _ Nat.toDigits_ne_nil, ih _ less]
        omega

theorem small_digit (value : Nat) (c : Char) (digit : Digit 10 value c) : c = value.digitChar := by
  obtain ⟨less, same | capital⟩ := digit
  · exact same
  · have alike : ∀ value < 10, value.digitChar.toUpper = value.digitChar := by decide
    rw [capital, alike value less]

-- Without its last digit a shortest numeral is one still, or nothing.
theorem shortest_iff_to_digits (digits : List Char) (n : Nat) : Shortest digits n ↔ digits = Nat.toDigits 10 n := by
  constructor
  · intro shortest
    induction digits using List.reverseRecOn generalizing n with
    | nil => exact absurd rfl shortest.nonempty
    | append_singleton front c ih =>
        obtain ⟨before, value, denotes, digit, rfl⟩ := (denotes_snoc_iff 10 front c n).mp shortest.denotes
        rw [small_digit value c digit]
        by_cases alone : front = []
        · subst alone
          rw [(denotes_nil_iff 10 before).mp denotes, Nat.mul_zero, Nat.zero_add, Nat.toDigits_of_lt_base digit.1]
          rfl
        · have noZero : front.head? ≠ some '0' := by
            intro zero
            have short := congrArg List.length (shortest.tight (by rw [List.head?_append_of_ne_nil _ alone, zero]))
            rw [List.length_append, List.length_singleton, List.length_singleton, Nat.add_eq_right, List.length_eq_zero_iff] at short
            exact alone short
          have same := ih before ⟨denotes, alone, fun zero => absurd zero noZero⟩
          have positive : 0 < before := by
            apply Nat.pos_of_ne_zero
            rw [Ne, ← zero_in_front_iff, ← same]
            exact noZero
          rw [← Nat.toDigits_append_toDigits (by decide) positive digit.1, Nat.toDigits_of_lt_base digit.1, ← same]
  · rintro rfl
    refine ⟨denotes_to_digits 10 (by decide) n, Nat.toDigits_ne_nil, fun zero => ?_⟩
    rw [(zero_in_front_iff n).mp zero]
    rfl

theorem take_digit_eq (base : Nat) (word : UInt64) (c : Char) :
    (takeDigit base word c).map UInt64.toNat =
      ((digit? base c).map (base * word.toNat + ·)).filter (· < UInt64.size) := by
  rw [takeDigit]
  cases digit? base c with
  | none => rfl
  | some value =>
      rw [Option.bind_some, Option.map_some, Option.filter_some]
      by_cases fits : base * word.toNat + value < UInt64.size
      · have whole : base * word.toNat < UInt64.size ∧ base * word.toNat + value < UInt64.size := ⟨by omega, fits⟩
        rw [if_pos whole, if_pos (decide_eq_true fits), Option.map_some, UInt64.toNat_ofNat_of_lt' fits]
      · rw [if_neg fun both => fits both.2, if_neg (by simpa using fits)]
        rfl

-- A number that has outgrown the word does not shrink again, and zeros in front never make it grow.
theorem word_of_digits_eq (base : Nat) (positive : 0 < base) (digits : List Char) :
    (wordOfDigits? base digits).map UInt64.toNat = (ofDigits? base digits).filter (· < UInt64.size) := by
  induction digits using List.reverseRecOn with
  | nil => rfl
  | append_singleton digits c ih =>
      have step : wordOfDigits? base (digits ++ [c]) = (wordOfDigits? base digits).bind (takeDigit base · c) := by
        simp [wordOfDigits?, List.foldlM_append]
      rw [step, of_digits_snoc, Option.map_bind]
      cases read : ofDigits? base digits with
      | none =>
          rw [read, Option.filter_none, Option.map_eq_none_iff] at ih
          rw [ih]
          rfl
      | some before =>
          rw [read, Option.filter_some] at ih
          by_cases fits : before < UInt64.size
          · rw [if_pos (decide_eq_true fits), Option.map_eq_some_iff] at ih
            obtain ⟨word, known, rfl⟩ := ih
            rw [known]
            exact take_digit_eq base word c
          · rw [if_neg (by simpa using fits), Option.map_eq_none_iff] at ih
            rw [ih, Option.bind_some, Option.bind_none, eq_comm, Option.filter_eq_none_iff]
            intro total reached
            obtain ⟨value, _, rfl⟩ := Option.map_eq_some_iff.mp reached
            have grown : before ≤ base * before := Nat.le_mul_of_pos_left before positive
            simp only [decide_eq_true_eq]
            omega

theorem word_numeral_eq (base : Nat) (positive : 0 < base) (text : List Char) :
    (wordNumeral? base text).map UInt64.toNat = (numeral? base text).filter (· < UInt64.size) := by
  simp only [wordNumeral?, numeral?]
  generalize (if text.head? = some '+' then text.tail else text) = digits
  by_cases empty : digits = []
  · rw [if_pos empty, if_pos empty]
    rfl
  · rw [if_neg empty, if_neg empty, word_of_digits_eq base positive]

end PathTemplates.Text
