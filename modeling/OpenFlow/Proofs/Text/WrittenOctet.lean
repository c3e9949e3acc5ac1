import Mathlib.Data.List.Induction
import OpenFlow.Proofs.Text.OctetNumeral
import OpenFlow.Text.Hex

/-!
# Octets written out

An octet is written as two upper-case hexadecimal digits, or in decimal without a zero in front of
other digits. Among the numerals of an octet there is exactly one of either form, the one that is
written.
-/
namespace OpenFlow.Text

variable {base n value : Nat} {c : Char} {digits octet : List Char}

/-! ### Numbers digit by digit -/

/-- The digits, the most significant first, are worth the number. -/
def Spells (base : Nat) (digits : List Char) (n : Nat) : Prop :=
  ∃ values, List.Forall₂ (IsDigit base) digits values ∧ worth base values = n

theorem worth_append_singleton (base : Nat) (values : List Nat) (value : Nat) :
    worth base (values ++ [value]) = worth base values * base + value := by
  rw [worth_eq_foldl, worth_eq_foldl, List.foldl_append, List.foldl_cons, List.foldl_nil]

theorem spells_nil_iff : Spells base [] n ↔ n = 0 := by
  simp [Spells, worth, eq_comm]

theorem spells_append_singleton_iff :
    Spells base (digits ++ [c]) n ↔
      ∃ m value, Spells base digits m ∧ IsDigit base c value ∧ n = m * base + value := by
  constructor
  · rintro ⟨values, read, rfl⟩
    -- The last digit is the first one from behind.
    have backward := List.forall₂_reverse_iff.mpr read
    rw [List.reverse_append, List.reverse_singleton, List.singleton_append] at backward
    obtain ⟨value, others, digit, front, same⟩ := List.forall₂_cons_left_iff.mp backward
    rw [List.reverse_eq_cons_iff] at same
    subst same
    rw [← List.forall₂_reverse_iff, List.reverse_reverse] at front
    exact ⟨_, value, ⟨_, front, rfl⟩, digit, worth_append_singleton base others.reverse value⟩
  · rintro ⟨m, value, ⟨values, read, rfl⟩, digit, rfl⟩
    exact ⟨values ++ [value], List.rel_append read (.cons digit .nil),
      worth_append_singleton base values value⟩

theorem Spells.octetNumeral (spelled : Spells base digits n) (written : digits ≠ [])
    (small : n ≤ 255) : OctetNumeral base digits n := by
  obtain ⟨values, read, rfl⟩ := spelled
  have unsigned : ([] : List Char) = [] ∨ ([] : List Char) = ['+'] := .inl rfl
  exact .intro unsigned written read small

theorem spells_of_octetNumeral (numeral : OctetNumeral base octet n) (unsigned : '+' ∉ octet) :
    Spells base octet n := by
  cases numeral with
  | @intro sign digits values optional written read small =>
    rcases optional with rfl | rfl
    · exact ⟨values, read, rfl⟩
    · exact absurd List.mem_cons_self unsigned

theorem IsDigit.unique {other : Nat} (digit : IsDigit base c value) (same : IsDigit base c other) :
    value = other := by
  rw [← digitValue?_eq_some_iff] at digit same
  exact Option.some.inj (digit.symm.trans same)

/-- Digits are worth one number. -/
theorem Spells.unique {m : Nat} (spelled : Spells base digits m) (same : Spells base digits n) :
    m = n := by
  obtain ⟨values, read, rfl⟩ := spelled
  obtain ⟨others, readAgain, rfl⟩ := same
  have functional : Relator.RightUnique (IsDigit base) := fun _ _ _ => IsDigit.unique
  rw [List.right_unique_forall₂' functional read readAgain]

/-! ### Hexadecimal -/

/-- Two upper-case hexadecimal digits. -/
def IsHexPair (octet : List Char) : Prop :=
  octet.length = 2 ∧ ∀ digit ∈ octet, digit ∈ upperDigits

theorem upperDigits_hexDigit (small : n < 16) : upperDigits[n]? = some (hexDigit n) := by
  interval_cases n <;> rfl

theorem isDigit_hexDigit (small : n < 16) : IsDigit 16 (hexDigit n) n :=
  ⟨small, .inr (upperDigits_hexDigit small)⟩

theorem hexDigit_mem_upperDigits (small : n < 16) : hexDigit n ∈ upperDigits :=
  List.mem_of_getElem? (upperDigits_hexDigit small)

theorem eq_hexDigit (digit : IsDigit 16 c value) (upper : c ∈ upperDigits) :
    c = hexDigit value := by
  obtain ⟨small, lower | listed⟩ := digit
  · -- The letters of the other case are not among the upper-case digits.
    interval_cases value <;> cases lower <;> first | rfl | exact absurd upper (by decide)
  · exact Option.some.inj (listed.symm.trans (upperDigits_hexDigit small))

theorem spells_hexDigits (width n : Nat) : Spells 16 (hexDigits width n) (n % 16 ^ width) := by
  induction width generalizing n with
  | zero => exact spells_nil_iff.mpr (Nat.mod_one n)
  | succ width ih =>
    rw [hexDigits, spells_append_singleton_iff]
    refine ⟨_, n % 16, ih (n / 16), isDigit_hexDigit (Nat.mod_lt n (by decide)), ?_⟩
    rw [Nat.pow_succ', Nat.mod_mul]
    omega

/-- Numbers that fit into the width are told by their numerals. -/
theorem hex_inj {width m n : Nat} (fits : m < 16 ^ width) (fitsToo : n < 16 ^ width) :
    hex width m = hex width n ↔ m = n := by
  refine ⟨fun same => ?_, congrArg (hex width)⟩
  have digits : hexDigits width m = hexDigits width n := by
    rw [← toList_hex, same, toList_hex]
  have spelled := spells_hexDigits width m
  rw [digits, Nat.mod_eq_of_lt fits] at spelled
  have spelledToo := spells_hexDigits width n
  rw [Nat.mod_eq_of_lt fitsToo] at spelledToo
  exact spelled.unique spelledToo

theorem mem_upperDigits_of_mem_hexDigits {width : Nat} (inside : c ∈ hexDigits width n) :
    c ∈ upperDigits := by
  induction width generalizing n with
  | zero => cases inside
  | succ width ih =>
    rw [hexDigits, List.mem_append, List.mem_singleton] at inside
    rcases inside with front | rfl
    · exact ih front
    · exact hexDigit_mem_upperDigits (Nat.mod_lt n (by decide))

theorem eq_hexDigits (spelled : Spells 16 digits n) (upper : ∀ c ∈ digits, c ∈ upperDigits) :
    digits = hexDigits digits.length n := by
  induction digits using List.reverseRecOn generalizing n with
  | nil => rfl
  | append_singleton digits c ih =>
    obtain ⟨m, value, front, digit, rfl⟩ := spells_append_singleton_iff.mp spelled
    -- The last digit is the remainder, and the others are written for the quotient.
    have small : value < 16 := digit.1
    have quotient : (m * 16 + value) / 16 = m := by omega
    have remainder : (m * 16 + value) % 16 = value := by omega
    have last := eq_hexDigit digit (upper c (by simp))
    rw [List.length_append, List.length_singleton, hexDigits, quotient, remainder, ← last,
      ← ih front fun c inside => upper c (List.mem_append_left _ inside)]

theorem octetNumeral_and_isHexPair_iff (small : n ≤ 255) :
    OctetNumeral 16 octet n ∧ IsHexPair octet ↔ octet = hexDigits 2 n := by
  constructor
  · rintro ⟨numeral, pair, upper⟩
    -- A numeral may have a sign, but the form leaves no room for one.
    have unsigned : '+' ∉ octet := fun sign => absurd (upper '+' sign) (by decide)
    rw [eq_hexDigits (spells_of_octetNumeral numeral unsigned) upper, pair]
  · rintro rfl
    have spelled := spells_hexDigits 2 n
    rw [Nat.mod_eq_of_lt (by omega)] at spelled
    exact ⟨spelled.octetNumeral (by simp [hexDigits]) small, length_hexDigits 2 n,
      fun digit inside => mem_upperDigits_of_mem_hexDigits inside⟩

/-! ### Decimal -/

/-- Decimal digits that are worth an octet, with no zero in front of others. -/
def IsPlainDecimal (octet : List Char) : Prop :=
  IsOctet 10 octet ∧ (∀ digit ∈ octet, digit.isDigit) ∧ (octet.head? = some '0' → octet = ['0'])

theorem getElem?_digits (small : n < 10) :
    lowerDigits[n]? = some n.digitChar ∧ upperDigits[n]? = some n.digitChar := by
  interval_cases n <;> exact ⟨rfl, rfl⟩

theorem isDigit_ten_iff : IsDigit 10 c value ↔ value < 10 ∧ c = value.digitChar := by
  refine and_congr_right fun small => ?_
  obtain ⟨lower, upper⟩ := getElem?_digits small
  rw [lower, upper, or_self, Option.some.injEq, eq_comm]

theorem isDigit_of_mem_repr (inside : c ∈ n.repr.toList) : c.isDigit = true := by
  rw [Nat.toList_repr] at inside
  exact Nat.isDigit_of_mem_toDigits (by decide) (by decide) inside

/-- Decimal numerals are read back. -/
theorem repr_injective : Function.Injective Nat.repr := by
  intro m n same
  have digits : Nat.toDigits 10 m = Nat.toDigits 10 n := by
    rw [← Nat.toList_repr, same, Nat.toList_repr]
  calc m
    _ = Nat.ofDigitChars 10 (Nat.toDigits 10 m) 0 := Nat.ofDigitChars_ten_toDigits.symm
    _ = Nat.ofDigitChars 10 (Nat.toDigits 10 n) 0 := by rw [digits]
    _ = n := Nat.ofDigitChars_ten_toDigits

theorem spells_toDigits (n : Nat) : Spells 10 (Nat.toDigits 10 n) n := by
  induction n using Nat.strong_induction_on with
  | h n ih =>
    rw [Nat.toDigits_eq_if (by decide)]
    split
    next small =>
      exact spells_append_singleton_iff.mpr
        ⟨0, n, spells_nil_iff.mpr rfl, isDigit_ten_iff.mpr ⟨small, rfl⟩, by omega⟩
    next large =>
      exact spells_append_singleton_iff.mpr
        ⟨n / 10, n % 10, ih (n / 10) (by omega), isDigit_ten_iff.mpr ⟨Nat.mod_lt n (by decide), rfl⟩,
          by omega⟩

theorem head?_toDigits_ne_zero (positive : 0 < n) : (Nat.toDigits 10 n).head? ≠ some '0' := by
  induction n using Nat.strong_induction_on with
  | h n ih =>
    rw [Nat.toDigits_eq_if (by decide)]
    split
    next small =>
      simp only [List.head?_cons, ne_eq, Option.some.injEq, Nat.digitChar_eq_zero]
      omega
    next large =>
      rw [List.head?_append_of_ne_nil _ Nat.toDigits_ne_nil]
      exact ih (n / 10) (by omega) (by omega)

theorem eq_toDigits (spelled : Spells 10 digits n) (written : digits ≠ [])
    (plain : digits.head? = some '0' → digits = ['0']) : digits = Nat.toDigits 10 n := by
  induction digits using List.reverseRecOn generalizing n with
  | nil => exact absurd rfl written
  | append_singleton digits c ih =>
    obtain ⟨m, value, front, digit, rfl⟩ := spells_append_singleton_iff.mp spelled
    obtain ⟨small, rfl⟩ := isDigit_ten_iff.mp digit
    by_cases alone : digits = []
    · subst alone
      obtain rfl := spells_nil_iff.mp front
      rw [Nat.zero_mul, Nat.zero_add, Nat.toDigits_of_lt_base small, List.nil_append]
    · rw [List.head?_append_of_ne_nil _ alone] at plain
      -- A zero in front would stand in front of the last digit.
      have noZero : digits.head? ≠ some '0' := by
        intro zero
        have whole := congrArg List.length (plain zero)
        rw [List.length_append, List.length_singleton, List.length_singleton] at whole
        exact alone (List.eq_nil_of_length_eq_zero (Nat.succ.inj whole))
      have same := ih front alone fun zero => absurd zero noZero
      have positive : m ≠ 0 := by
        rintro rfl
        exact noZero (by rw [same]; rfl)
      have quotient : (m * 10 + value) / 10 = m := by omega
      have remainder : (m * 10 + value) % 10 = value := by omega
      rw [Nat.toDigits_of_base_le (by decide) (by omega), quotient, remainder, ← same]

theorem octetNumeral_and_isPlainDecimal_iff (small : n ≤ 255) :
    OctetNumeral 10 octet n ∧ IsPlainDecimal octet ↔ octet = Nat.toDigits 10 n := by
  constructor
  · rintro ⟨numeral, -, decimal, plain⟩
    have unsigned : '+' ∉ octet := fun sign => absurd (decimal '+' sign) (by decide)
    exact eq_toDigits (spells_of_octetNumeral numeral unsigned) (ne_nil_of_octetNumeral numeral)
      plain
  · rintro rfl
    have numeral := (spells_toDigits n).octetNumeral Nat.toDigits_ne_nil small
    refine ⟨numeral, ⟨n, numeral⟩,
      fun digit inside => Nat.isDigit_of_mem_toDigits (by decide) (by decide) inside, fun zero => ?_⟩
    obtain rfl | positive := Nat.eq_zero_or_pos n
    · rfl
    · exact absurd zero (head?_toDigits_ne_zero positive)

end OpenFlow.Text
