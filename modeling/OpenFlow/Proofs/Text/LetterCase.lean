import OpenFlow.Proofs.Text.OctetNumeral

/-!
# Letter case of numerals

A digit is worth the same in either case, and no other character of a numeral or between numerals
has a case. So an octet is read from a text as it is from the text in upper case.
-/
namespace OpenFlow.Text

variable {c : Char}

theorem toUpper_cases (c : Char) :
    c.toUpper = c ∨ ∃ code, 97 ≤ code ∧ code ≤ 122 ∧ c = Char.ofNat code ∧
      c.toUpper = Char.ofNat (code - 32) := by
  by_cases lower : 97 ≤ c.toNat ∧ c.toNat ≤ 122
  · obtain ⟨low, high⟩ := lower
    refine .inr ⟨c.toNat, low, high, (Char.ofNat_toNat c).symm, ?_⟩
    conv_lhs => rw [← Char.ofNat_toNat c]
    -- Only the 26 letters of lower case are left.
    generalize c.toNat = code at low high
    interval_cases code <;> rfl
  · refine .inl (dif_neg fun range => lower ?_)
    simpa [UInt32.le_iff_toNat_le, ← Char.toNat_val] using range

theorem digitValue?_toUpper (base : Nat) (c : Char) :
    digitValue? base c.toUpper = digitValue? base c := by
  obtain same | ⟨code, low, high, lower, upper⟩ := toUpper_cases c
  · rw [same]
  · rw [upper, lower]
    interval_cases code <;> rfl

theorem toUpper_eq_iff {plain : Char} (early : plain.toNat < 65) :
    c.toUpper = plain ↔ c = plain := by
  obtain same | ⟨code, low, high, lower, upper⟩ := toUpper_cases c
  · rw [same]
  · -- Neither case of a letter is a character that comes before all letters.
    rw [upper, lower]
    constructor <;> rintro rfl <;> interval_cases code <;> exact absurd early (by decide)

theorem readDigits_map_toUpper (base value : Nat) (digits : List Char) :
    readDigits base value (digits.map Char.toUpper) = readDigits base value digits := by
  induction digits generalizing value with
  | nil => rfl
  | cons c digits ih =>
    rw [List.map_cons, readDigits, readDigits, digitValue?_toUpper]
    simp only [ih]

theorem dropSign_map_toUpper (piece : List Char) :
    dropSign (piece.map Char.toUpper) = (dropSign piece).map Char.toUpper := by
  match piece with
  | [] => rfl
  | [c] => simp [dropSign] -- A sign that nothing follows is not dropped in either case.
  | c :: next :: rest =>
    by_cases sign : c = '+'
    · subst sign
      rfl
    · have noSign : c.toUpper ≠ '+' := mt (toUpper_eq_iff (by decide)).mp sign
      simp [dropSign, sign, noSign]

theorem readOctet_map_toUpper (base : Nat) (piece : List Char) :
    readOctet base (piece.map Char.toUpper) = readOctet base piece := by
  cases piece with
  | nil => rfl
  | cons c rest =>
    rw [readOctet_of_ne_nil (List.cons_ne_nil c rest), List.map_cons,
      readOctet_of_ne_nil (List.cons_ne_nil _ _), ← List.map_cons, dropSign_map_toUpper,
      readDigits_map_toUpper]

theorem splitOn_map_toUpper {separator : Char} (early : separator.toNat < 65)
    (text : List Char) :
    (text.map Char.toUpper).splitOn separator =
      (text.splitOn separator).map (List.map Char.toUpper) := by
  induction text with
  | nil => simp
  | cons c text ih =>
    rw [List.map_cons, List.splitOn_cons_eq_if_modifyHead, List.splitOn_cons_eq_if_modifyHead, ih]
    simp only [beq_iff_eq, toUpper_eq_iff early]
    split
    · rfl
    · cases text.splitOn separator <;> rfl

end OpenFlow.Text
