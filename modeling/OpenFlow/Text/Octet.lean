/-!
# Reading octets

An octet is written as digits of some base, after an optional plus sign, with
any number of leading zeros. The digits are read from left to right, and
reading stops at the first character that is no digit or that takes the value
past 255, whichever comes first.
-/
namespace OpenFlow.Text

inductive OctetFault where
  | empty
  | badDigit
  | tooLarge
deriving DecidableEq, Repr

def OctetFault.message : OctetFault → String
  | .empty => "cannot parse integer from empty string"
  | .badDigit => "invalid digit found in string"
  | .tooLarge => "number too large to fit in target type"

/-- The value of a digit of either case, when it is below the base. -/
def digitValue? (base : Nat) (c : Char) : Option Nat :=
  let code := c.toNat
  let value :=
    if 48 ≤ code ∧ code ≤ 57 then some (code - 48)
    else if 65 ≤ code ∧ code ≤ 70 then some (code - 55)
    else if 97 ≤ code ∧ code ≤ 102 then some (code - 87)
    else none
  value.filter (· < base)

theorem digitValue?_lt {base : Nat} {c : Char} {value : Nat}
    (digit : digitValue? base c = some value) : value < base := by
  simp only [digitValue?, Option.filter_eq_some_iff, decide_eq_true_eq] at digit
  exact digit.2

/-- Continue a numeral whose digits so far are worth `value`. -/
def readDigits (base : Nat) : Nat → List Char → Except OctetFault Nat
  | value, [] => .ok value
  | value, c :: rest =>
    match digitValue? base c with
    | none => .error .badDigit
    | some digit =>
      if value * base + digit ≤ 255 then readDigits base (value * base + digit) rest
      else .error .tooLarge

/-- A plus sign is dropped only when something follows it. -/
def dropSign : List Char → List Char
  | '+' :: c :: rest => c :: rest
  | piece => piece

def readOctet (base : Nat) : List Char → Except OctetFault UInt8
  | [] => .error .empty
  | piece => (readDigits base 0 (dropSign piece)).map UInt8.ofNat

end OpenFlow.Text
