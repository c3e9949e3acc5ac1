import Mathlib.Data.List.Forall2
import Mathlib.Data.Nat.Digits.Defs
import Mathlib.Tactic.IntervalCases
import OpenFlow.Text.Octet

/-!
# Octet numerals

An octet is written as one digit or more, after an optional plus sign, with a value of at most 255
and any number of leading zeros. Reading accepts exactly these texts. Another text is too large if
the digits that it starts with are worth more than 255, so what comes after them does not matter;
otherwise it has a bad digit, unless it is empty.
-/
namespace OpenFlow.Text

/-! ### Digits -/

def lowerDigits : List Char :=
  ['0', '1', '2', '3', '4', '5', '6', '7', '8', '9', 'a', 'b', 'c', 'd', 'e', 'f']

def upperDigits : List Char :=
  ['0', '1', '2', '3', '4', '5', '6', '7', '8', '9', 'A', 'B', 'C', 'D', 'E', 'F']

/-- The digit of a value below the base, in either case. -/
def IsDigit (base : Nat) (c : Char) (value : Nat) : Prop :=
  value < base ∧ (lowerDigits[value]? = some c ∨ upperDigits[value]? = some c)

variable {base value : Nat} {c : Char}

theorem digitValue?_eq_some_iff : digitValue? base c = some value ↔ IsDigit base c value := by
  constructor
  · intro read
    refine ⟨digitValue?_lt read, ?_⟩
    simp only [digitValue?, Option.filter_eq_some_iff] at read
    obtain ⟨coded, -⟩ := read
    rw [← Char.ofNat_toNat c]
    generalize c.toNat = code at coded
    -- A code within one of the three ranges is one of at most ten.
    split at coded
    next decimal =>
      obtain rfl : code - 48 = value := Option.some.inj coded
      obtain ⟨low, high⟩ := decimal
      interval_cases code <;> decide
    next =>
      split at coded
      next upper =>
        obtain rfl : code - 55 = value := Option.some.inj coded
        obtain ⟨low, high⟩ := upper
        interval_cases code <;> decide
      next =>
        split at coded
        next lower =>
          obtain rfl : code - 87 = value := Option.some.inj coded
          obtain ⟨low, high⟩ := lower
          interval_cases code <;> decide
        next => cases coded
  · rintro ⟨below, listed⟩
    rw [digitValue?, Option.filter_eq_some_iff, decide_eq_true_iff]
    refine ⟨?_, below⟩
    rcases listed with lower | upper
    · have small : value < 16 := (List.getElem?_eq_some_iff.mp lower).1
      interval_cases value <;> cases lower <;> rfl
    · have small : value < 16 := (List.getElem?_eq_some_iff.mp upper).1
      interval_cases value <;> cases upper <;> rfl

theorem not_isDigit_plus (base value : Nat) : ¬ IsDigit base '+' value := by
  intro digit
  have read := digitValue?_eq_some_iff.mpr digit
  have none : digitValue? base '+' = none := rfl
  cases none.symm.trans read

/-! ### Numbers -/

/-- The number that digits stand for, the most significant first. -/
def worth (base : Nat) (values : List Nat) : Nat := Nat.ofDigits base values.reverse

theorem worth_eq_foldl (base : Nat) (values : List Nat) :
    worth base values = values.foldl (fun value digit => value * base + digit) 0 := by
  rw [worth, Nat.ofDigits_eq_foldr, List.foldr_reverse]
  congr 1
  funext value digit
  rw [Nat.cast_id, Nat.mul_comm, Nat.add_comm]

theorem le_foldl_worth (positive : 0 < base) (value : Nat) (values : List Nat) :
    value ≤ values.foldl (fun value digit => value * base + digit) value := by
  induction values generalizing value with
  | nil => exact Nat.le_refl value
  | cons digit values ih =>
    have grown : value ≤ value * base + digit :=
      Nat.le_add_right_of_le (Nat.le_mul_of_pos_right value positive)
    exact Nat.le_trans grown (ih _)

variable {digits rest : List Char} {values : List Nat}

/-- Reading goes on behind digits that fit, and stops within digits that do not. -/
theorem readDigits_append (read : List.Forall₂ (IsDigit base) digits values) (rest : List Char)
    (small : value ≤ 255) :
    readDigits base value (digits ++ rest) =
      let read := values.foldl (fun value digit => value * base + digit) value
      if read ≤ 255 then readDigits base read rest else .error .tooLarge := by
  induction read generalizing value with
  | nil => exact (if_pos small).symm
  | @cons c digit cs values isDigit others ih =>
    rw [List.cons_append, readDigits, digitValue?_eq_some_iff.mpr isDigit, List.foldl_cons]
    dsimp only
    by_cases fits : value * base + digit ≤ 255
    · rw [if_pos fits]
      exact ih fits
    · -- More digits only add to a number that is too large.
      have positive : 0 < base := Nat.zero_lt_of_lt isDigit.1
      have grown := le_foldl_worth positive (value * base + digit) values
      rw [if_neg fits, if_neg (by omega)]

theorem readDigits_eq (read : List.Forall₂ (IsDigit base) digits values) (rest : List Char) :
    readDigits base 0 (digits ++ rest) =
      if worth base values ≤ 255 then readDigits base (worth base values) rest
      else .error .tooLarge := by
  rw [worth_eq_foldl]
  exact readDigits_append read rest (Nat.zero_le 255)

/-- Behind the digits that a text starts with there is nothing, or a character that is no digit. -/
theorem exists_digits (base : Nat) (text : List Char) :
    ∃ digits values rest, text = digits ++ rest ∧ List.Forall₂ (IsDigit base) digits values ∧
      (rest = [] ∨ ∀ value, readDigits base value rest = .error .badDigit) := by
  induction text with
  | nil => exact ⟨[], [], [], rfl, .nil, .inl rfl⟩
  | cons c text ih =>
    -- The digits behind a bad one do not count: they are part of the rest.
    cases read : digitValue? base c with
    | none => exact ⟨[], [], c :: text, rfl, .nil, .inr fun value => by rw [readDigits, read]⟩
    | some digit =>
      obtain ⟨digits, values, rest, rfl, isDigit, behind⟩ := ih
      exact ⟨c :: digits, digit :: values, rest, rfl,
        .cons (digitValue?_eq_some_iff.mp read) isDigit, behind⟩

theorem readDigits_cases (base : Nat) (text : List Char) :
    ∃ digits values rest, text = digits ++ rest ∧ List.Forall₂ (IsDigit base) digits values ∧
      (rest = [] ∧ worth base values ≤ 255 ∧
          readDigits base 0 text = .ok (worth base values) ∨
        255 < worth base values ∧ readDigits base 0 text = .error .tooLarge ∨
        readDigits base 0 text = .error .badDigit) := by
  obtain ⟨digits, values, rest, rfl, read, behind⟩ := exists_digits base text
  refine ⟨digits, values, rest, rfl, read, ?_⟩
  rw [readDigits_eq read]
  by_cases fits : worth base values ≤ 255
  · rw [if_pos fits]
    rcases behind with rfl | bad
    · exact .inl ⟨rfl, fits, rfl⟩
    · exact .inr (.inr (bad _))
  · rw [if_neg fits]
    exact .inr (.inl ⟨by omega, rfl⟩)

theorem readDigits_eq_ok_iff {text : List Char} {result : Nat} :
    readDigits base 0 text = .ok result ↔
      ∃ values, List.Forall₂ (IsDigit base) text values ∧ worth base values = result ∧
        result ≤ 255 := by
  constructor
  · intro accepted
    obtain ⟨digits, values, rest, rfl, read, ⟨rfl, fits, same⟩ | ⟨-, refused⟩ | refused⟩ :=
      readDigits_cases base text
    · cases accepted.symm.trans same
      exact ⟨values, by rwa [List.append_nil], rfl, fits⟩
    · cases accepted.symm.trans refused
    · cases accepted.symm.trans refused
  · rintro ⟨values, read, rfl, fits⟩
    have whole := readDigits_eq read []
    rwa [List.append_nil, if_pos fits, readDigits] at whole

theorem readDigits_eq_tooLarge_iff {text : List Char} :
    readDigits base 0 text = .error .tooLarge ↔
      ∃ digits values rest, text = digits ++ rest ∧ List.Forall₂ (IsDigit base) digits values ∧
        255 < worth base values := by
  constructor
  · intro refused
    obtain ⟨digits, values, rest, split, read, ⟨-, -, other⟩ | ⟨large, -⟩ | other⟩ :=
      readDigits_cases base text
    · cases refused.symm.trans other
    · exact ⟨digits, values, rest, split, read, large⟩
    · cases refused.symm.trans other
  · rintro ⟨digits, values, rest, rfl, read, large⟩
    rw [readDigits_eq read, if_neg (by omega)]

/-! ### Octets -/

/-- An octet as it may be written, with its value. -/
inductive OctetNumeral (base : Nat) : List Char → Nat → Prop where
  | intro {sign digits : List Char} {values : List Nat} (optional : sign = [] ∨ sign = ['+'])
      (written : digits ≠ []) (read : List.Forall₂ (IsDigit base) digits values)
      (small : worth base values ≤ 255) : OctetNumeral base (sign ++ digits) (worth base values)

def IsOctet (base : Nat) (piece : List Char) : Prop := ∃ value, OctetNumeral base piece value

/-- Some of the digits that a text starts with are already worth more than an octet is. -/
inductive OctetOverflow (base : Nat) : List Char → Prop where
  | intro {sign digits : List Char} {values : List Nat} (optional : sign = [] ∨ sign = ['+'])
      (read : List.Forall₂ (IsDigit base) digits values) (large : 255 < worth base values)
      (rest : List Char) : OctetOverflow base (sign ++ digits ++ rest)

/-- The sign is what stands before digits, and no digit is taken for one. -/
theorem dropSign_append {sign : List Char} (optional : sign = [] ∨ sign = ['+'])
    (read : List.Forall₂ (IsDigit base) digits values) (written : digits ≠ []) (rest : List Char) :
    dropSign (sign ++ digits ++ rest) = digits ++ rest := by
  cases read with
  | nil => exact absurd rfl written
  | @cons c value digits values digit read =>
    have noSign : c ≠ '+' := by
      rintro rfl
      exact not_isDigit_plus base value digit
    rcases optional with rfl | rfl
    · simp only [List.nil_append, List.cons_append]
      unfold dropSign
      split
      next same => exact absurd (List.cons.inj same).1 noSign
      next => rfl
    · rfl

theorem exists_sign (piece : List Char) :
    ∃ sign, (sign = [] ∨ sign = ['+']) ∧ piece = sign ++ dropSign piece := by
  unfold dropSign
  split
  next c rest => exact ⟨['+'], .inr rfl, rfl⟩
  next => exact ⟨[], .inl rfl, rfl⟩

variable {piece : List Char}

theorem dropSign_ne_nil (something : piece ≠ []) : dropSign piece ≠ [] := by
  unfold dropSign
  split
  · exact List.cons_ne_nil _ _
  · exact something

theorem ne_nil_of_octetNumeral (numeral : OctetNumeral base piece value) : piece ≠ [] := by
  cases numeral with
  | intro optional written read small => simp [written]

theorem ne_nil_of_octetOverflow (overflow : OctetOverflow base piece) : piece ≠ [] := by
  cases overflow with
  | intro optional read large rest =>
    -- No digits would be worth nothing.
    cases read with
    | nil => simp [worth] at large
    | cons digit read => simp

theorem readOctet_of_ne_nil (something : piece ≠ []) :
    readOctet base piece = (readDigits base 0 (dropSign piece)).map UInt8.ofNat := by
  cases piece with
  | nil => exact absurd rfl something
  | cons c rest => rfl

theorem readOctet_eq_ok_iff {byte : UInt8} :
    readOctet base piece = .ok byte ↔ OctetNumeral base piece byte.toNat := by
  constructor
  · intro accepted
    have something : piece ≠ [] := by
      rintro rfl
      cases accepted
    rw [readOctet_of_ne_nil something] at accepted
    cases number : readDigits base 0 (dropSign piece) with
    | error fault =>
      rw [number] at accepted
      cases accepted
    | ok result =>
      rw [number] at accepted
      obtain ⟨values, read, rfl, small⟩ := readDigits_eq_ok_iff.mp number
      obtain ⟨sign, optional, split⟩ := exists_sign piece
      obtain rfl : UInt8.ofNat (worth base values) = byte := Except.ok.inj accepted
      rw [UInt8.toNat_ofNat_of_lt' (Nat.lt_succ_of_le small), split]
      exact .intro optional (dropSign_ne_nil something) read small
  · intro numeral
    rw [readOctet_of_ne_nil (ne_nil_of_octetNumeral numeral)]
    generalize number : byte.toNat = value at numeral
    cases numeral with
    | intro optional written read small =>
      have unsigned := dropSign_append optional read written []
      rw [List.append_nil, List.append_nil] at unsigned
      rw [unsigned, readDigits_eq_ok_iff.mpr ⟨_, read, rfl, small⟩, Except.map, ← number,
        UInt8.ofNat_toNat]

theorem readOctet_eq_tooLarge_iff :
    readOctet base piece = .error .tooLarge ↔ OctetOverflow base piece := by
  constructor
  · intro refused
    have something : piece ≠ [] := by
      rintro rfl
      cases refused
    rw [readOctet_of_ne_nil something] at refused
    cases number : readDigits base 0 (dropSign piece) with
    | ok result =>
      rw [number] at refused
      cases refused
    | error fault =>
      rw [number] at refused
      obtain rfl : fault = .tooLarge := Except.error.inj refused
      obtain ⟨digits, values, rest, split, read, large⟩ := readDigits_eq_tooLarge_iff.mp number
      obtain ⟨sign, optional, signed⟩ := exists_sign piece
      rw [signed, split, ← List.append_assoc]
      exact .intro optional read large rest
  · intro overflow
    rw [readOctet_of_ne_nil (ne_nil_of_octetOverflow overflow)]
    cases overflow with
    | @intro sign digits values optional read large rest =>
      have written : digits ≠ [] := by
        rintro rfl
        cases read
        simp [worth] at large
      rw [dropSign_append optional read written, readDigits_eq_tooLarge_iff.mpr
        ⟨digits, values, rest, rfl, read, large⟩]
      rfl

theorem isOctet_iff : IsOctet base piece ↔ ∃ byte, readOctet base piece = .ok byte := by
  constructor
  · rintro ⟨value, numeral⟩
    have small : value ≤ 255 := by
      cases numeral with
      | intro optional written read small => exact small
    refine ⟨UInt8.ofNat value, readOctet_eq_ok_iff.mpr ?_⟩
    rwa [UInt8.toNat_ofNat_of_lt' (Nat.lt_succ_of_le small)]
  · rintro ⟨byte, accepted⟩
    exact ⟨byte.toNat, readOctet_eq_ok_iff.mp accepted⟩

instance (base : Nat) (piece : List Char) : Decidable (IsOctet base piece) :=
  decidable_of_iff ((readOctet base piece).toOption.isSome = true) <| by
    rw [isOctet_iff]
    cases readOctet base piece <;> simp [Except.toOption]

instance (base : Nat) (piece : List Char) : Decidable (OctetOverflow base piece) :=
  decidable_of_iff _ readOctet_eq_tooLarge_iff

/-- The fault of a text that is no octet: it is empty, or starts with digits that are too large, or
has a character that is no digit. -/
theorem readOctet_of_not_isOctet (bad : ¬ IsOctet base piece) :
    (piece = [] ∧ readOctet base piece = .error .empty) ∨
    (piece ≠ [] ∧ OctetOverflow base piece ∧ readOctet base piece = .error .tooLarge) ∨
    (piece ≠ [] ∧ ¬ OctetOverflow base piece ∧ readOctet base piece = .error .badDigit) := by
  by_cases something : piece = []
  · subst something
    exact .inl ⟨rfl, rfl⟩
  · by_cases large : OctetOverflow base piece
    · exact .inr (.inl ⟨something, large, readOctet_eq_tooLarge_iff.mpr large⟩)
    · refine .inr (.inr ⟨something, large, ?_⟩)
      rw [← readOctet_eq_tooLarge_iff] at large
      rw [isOctet_iff] at bad
      rw [readOctet_of_ne_nil something] at large bad ⊢
      -- Neither a number nor an overflow is left, so the digits stop at a bad one.
      obtain ⟨_, _, _, -, -, ⟨-, -, read⟩ | ⟨-, read⟩ | read⟩ :=
        readDigits_cases base (dropSign piece)
      · rw [read] at bad
        exact absurd ⟨_, rfl⟩ bad
      · rw [read] at large
        exact absurd rfl large
      · rw [read]
        rfl

/-! ### Pieces -/

variable {α β ε : Type} {f : α → Except ε β}

theorem mapM_eq_ok_iff {pieces : List α} {values : List β} :
    pieces.mapM f = .ok values ↔
      List.Forall₂ (fun piece value => f piece = .ok value) pieces values := by
  induction pieces generalizing values with
  | nil => cases values <;> simp [pure, Except.pure]
  | cons piece pieces ih =>
    rw [List.mapM_cons, List.forall₂_cons_left_iff]
    cases first : f piece with
    | error error => simp [bind, Except.bind]
    | ok value =>
      simp only [bind, Except.bind, Except.ok.injEq, ← ih]
      cases others : pieces.mapM f with
      | error error => simp
      | ok read => simp [pure, Except.pure, eq_comm]

theorem exists_mapM_eq_ok_iff {pieces : List α} :
    (∃ values, pieces.mapM f = .ok values) ↔ ∀ piece ∈ pieces, ∃ value, f piece = .ok value := by
  simp only [mapM_eq_ok_iff]
  induction pieces with
  | nil => exact ⟨fun _ => List.forall_mem_nil _, fun _ => ⟨[], .nil⟩⟩
  | cons piece pieces ih =>
    rw [List.forall_mem_cons, ← ih]
    constructor
    · rintro ⟨_, _ | ⟨first, others⟩⟩
      exact ⟨⟨_, first⟩, ⟨_, others⟩⟩
    · rintro ⟨⟨value, first⟩, ⟨values, others⟩⟩
      exact ⟨value :: values, .cons first others⟩

/-- The first piece that is refused decides on the error. -/
theorem mapM_append_of_error {before : List α} {piece : α} {error : ε}
    (accepted : ∀ piece ∈ before, ∃ value, f piece = .ok value) (refused : f piece = .error error)
    (after : List α) : (before ++ piece :: after).mapM f = .error error := by
  induction before with
  | nil => rw [List.nil_append, List.mapM_cons, refused]; rfl
  | cons first before ih =>
    obtain ⟨value, read⟩ := accepted first List.mem_cons_self
    rw [List.cons_append, List.mapM_cons, read,
      ih fun piece inside => accepted piece (List.mem_cons_of_mem _ inside)]
    rfl

end OpenFlow.Text
