/-!
# Fixed-width hexadecimal

Upper-case hexadecimal numerals padded with zeros to a given width. A number
that needs more digits than the width keeps only its lowest ones.
-/
namespace OpenFlow.Text

def hexDigit (n : Nat) : Char :=
  if n < 10 then Char.ofNat (48 + n) else Char.ofNat (55 + n)

def hexDigits : Nat → Nat → List Char
  | 0, _ => []
  | width + 1, n => hexDigits width (n / 16) ++ [hexDigit (n % 16)]

theorem length_hexDigits (width n : Nat) : (hexDigits width n).length = width := by
  induction width generalizing n with
  | zero => rfl
  | succ width ih => simp [hexDigits, ih]

def hex (width n : Nat) : String := String.ofList (hexDigits width n)

theorem toList_hex (width n : Nat) : (hex width n).toList = hexDigits width n := by
  simp [hex]

end OpenFlow.Text
