import OpenFlow.Proofs.Address.Ipv4
import OpenFlow.Proofs.Address.Mac
import OpenFlow.Proofs.Text.LetterCase
import OpenFlow.Proofs.Text.WrittenOctet

/-!
# Addresses as they are shown

The text of an address is read back as the address, and it is the only text of its form that is: six
pairs of upper-case hexadecimal digits between colons, or four plain decimal octets between dots.
A MAC address is read whatever the case of its digits.
-/
namespace OpenFlow

open Text (Separated IsHexPair IsPlainDecimal)

/-- What is shown of a value is the one text of the form that is read as the value. -/
structure Canonical {ε α : Type} (parse : String → Except ε α) (text : α → String)
    (form : String → Prop) : Prop where
  read_back : ∀ value, parse (text value) = .ok value
  injective : Function.Injective text
  settled : ∀ written value, parse written = .ok value → parse (text value) = .ok value
  formed : ∀ value, form (text value)
  unique : ∀ written value, parse written = .ok value → form written → written = text value

theorem canonical_of_eq_text_iff {ε α : Type} {parse : String → Except ε α} {text : α → String}
    {form : String → Prop}
    (shown : ∀ written value, written = text value ↔ parse written = .ok value ∧ form written) :
    Canonical parse text form where
  read_back value := ((shown (text value) value).mp rfl).1
  injective := by
    intro first second same
    have read := ((shown (text first) first).mp rfl).1
    rw [same, ((shown (text second) second).mp rfl).1] at read
    exact (Except.ok.inj read).symm
  settled _ value _ := ((shown (text value) value).mp rfl).1
  formed value := ((shown (text value) value).mp rfl).2
  unique written value read inForm := (shown written value).mpr ⟨read, inForm⟩

namespace MacAddr

theorem toList_text (address : MacAddr) :
    address.text.toList =
      [':'].intercalate (address.bytes.map fun byte => Text.hexDigits 2 byte.toNat) := by
  have colon : ":".toList = [':'] := rfl
  rw [text, String.toList_intercalate, List.map_map, colon]
  exact congrArg _ (List.map_congr_left fun byte _ => Text.toList_hex 2 byte.toNat)

theorem eq_text_iff (written : String) (address : MacAddr) :
    written = address.text ↔ parse written = .ok address ∧ Separated ':' 6 IsHexPair written := by
  have free : ∀ piece, IsHexPair piece → ':' ∉ piece :=
    fun piece pair colon => absurd (pair.2 ':' colon) (by decide)
  rw [← String.toList_inj, toList_text, parse_eq_ok_iff]
  exact Text.eq_intercalate_iff free Text.octetNumeral_and_isHexPair_iff (Nat.succ_pos 5)

theorem parse_toUpper_eq_ok_iff {text : String} {address : MacAddr} :
    parse text.toUpper = .ok address ↔ parse text = .ok address := by
  -- Only what is read of each piece is left, and a piece in upper case is read the same.
  simp only [parse_eq_ok_iff, List.forall₂_map_right_iff, ← Text.readOctet_eq_ok_iff]
  rw [String.toUpper, String.toList_map, Text.splitOn_map_toUpper (by decide),
    List.forall₂_map_left_iff]
  simp only [Text.readOctet_map_toUpper]

end MacAddr

namespace Ipv4Addr

theorem toList_text (address : Ipv4Addr) :
    address.text.toList =
      ['.'].intercalate (address.bytes.map fun byte => Nat.toDigits 10 byte.toNat) := by
  have dot : ".".toList = ['.'] := rfl
  rw [text, String.toList_intercalate, List.map_map, dot]
  exact congrArg _ (List.map_congr_left fun byte _ => Nat.toList_repr)

theorem eq_text_iff (written : String) (address : Ipv4Addr) :
    written = address.text ↔
      parse written = .ok address ∧ Separated '.' 4 IsPlainDecimal written := by
  have free : ∀ piece, IsPlainDecimal piece → '.' ∉ piece :=
    fun piece plain dot => absurd (plain.2.1 '.' dot) (by decide)
  rw [← String.toList_inj, toList_text, parse_eq_ok_iff]
  exact Text.eq_intercalate_iff free Text.octetNumeral_and_isPlainDecimal_iff (Nat.succ_pos 3)

end Ipv4Addr

/-- The text of an address is read back as the address and is the only text of its form that is
read so: six pairs of upper-case hexadecimal digits between colons, or four plain decimal octets
between dots. Any digit of a MAC address may be in the other case. -/
theorem address_texts_are_canonical :
    Canonical MacAddr.parse MacAddr.text (Separated ':' 6 IsHexPair) ∧
    Canonical Ipv4Addr.parse Ipv4Addr.text (Separated '.' 4 IsPlainDecimal) ∧
    ∀ (address : MacAddr) (written : String), written.toUpper = address.text →
      MacAddr.parse written = .ok address := by
  refine ⟨canonical_of_eq_text_iff MacAddr.eq_text_iff,
    canonical_of_eq_text_iff Ipv4Addr.eq_text_iff, fun address written same => ?_⟩
  rw [← MacAddr.parse_toUpper_eq_ok_iff]
  exact ((MacAddr.eq_text_iff written.toUpper address).mp same).1

/-- Three of the letters are in lower case. An IPv4 address with a sign and leading zeros is read,
and what is shown of it is read as well. -/
theorem address_texts_are_canonical_mixed_case :
    let mac : MacAddr := ⟨0xA8, 0x40, 0x25, 0xFF, 0x77, 0x0B⟩
    let ip : Ipv4Addr := ⟨10, 7, 0, 255⟩
    "a8:40:25:Ff:77:0b".toUpper = mac.text ∧
    MacAddr.parse "a8:40:25:Ff:77:0b" = .ok mac ∧
    Ipv4Addr.parse "+10.007.0.0255" = .ok ip ∧ Ipv4Addr.parse ip.text = .ok ip := by
  intro mac ip
  obtain ⟨-, canonical, anyCase⟩ := address_texts_are_canonical
  have upper : "a8:40:25:Ff:77:0b".toUpper = mac.text := by
    rw [← String.toList_inj, String.toUpper, String.toList_map]
    decide
  have accepted : Ipv4Addr.parse "+10.007.0.0255" = .ok ip := by rfl
  exact ⟨upper, anyCase mac _ upper, accepted, canonical.settled _ ip accepted⟩

end OpenFlow
