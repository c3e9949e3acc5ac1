import OpenFlow.Address.Mac
import OpenFlow.Proofs.Text.Pieces

/-!
# MAC addresses read from text

The text is split at its colons. It is an address if and only if it has six pieces and each is an
octet in hexadecimal. The first piece that is none is named in the fault, however many pieces there
are, so their number is a fault only where each of them is an octet.
-/
namespace OpenFlow.MacAddr

open Text (OctetNumeral IsOctet)

variable {text : String} {address : MacAddr}

theorem exists_bytes_eq_iff (octets : List UInt8) :
    (∃ address : MacAddr, address.bytes = octets) ↔ octets.length = 6 := by
  constructor
  · rintro ⟨address, rfl⟩
    rfl
  · intro count
    obtain ⟨a, b, c, d, e, f, rfl⟩ : ∃ a b c d e f, octets = [a, b, c, d, e, f] := by
      match octets, count with
      | [a, b, c, d, e, f], _ => exact ⟨a, b, c, d, e, f, rfl⟩
    exact ⟨⟨a, b, c, d, e, f⟩, rfl⟩

theorem parse_eq_assemble (text : String) :
    parse text = Text.assemble 16 (fun piece _ => ParseError.octet (String.ofList piece)) ofBytes?
      (fun octets => .count octets.length) (text.toList.splitOn ':') :=
  bind_congr fun octets => by cases ofBytes? octets <;> rfl

theorem parse_eq_ok_iff :
    parse text = .ok address ↔
      List.Forall₂ (OctetNumeral 16) (text.toList.splitOn ':')
        (address.bytes.map UInt8.toNat) := by
  rw [parse_eq_assemble, Text.assemble_eq_ok_iff ofBytes?_eq_some_iff]

theorem exists_parse_eq_ok_iff :
    (∃ address, parse text = .ok address) ↔
      (text.toList.splitOn ':').length = 6 ∧
        ∀ piece ∈ text.toList.splitOn ':', IsOctet 16 piece := by
  simp only [parse_eq_assemble]
  exact Text.exists_assemble_eq_ok_iff ofBytes?_eq_some_iff exists_bytes_eq_iff

/-- A text is read as an address if and only if its pieces between colons are six octets in
hexadecimal, whose values are then the bytes in order. Otherwise the first piece that is no octet is
named in the fault, and where all are octets but are not six, their number is. -/
theorem parse_accepts_six_octets (text : String) :
    let pieces := text.toList.splitOn ':'
    ((∃ address, parse text = .ok address) ↔
      pieces.length = 6 ∧ ∀ piece ∈ pieces, IsOctet 16 piece) ∧
    (∀ address, parse text = .ok address ↔
      List.Forall₂ (OctetNumeral 16) pieces (address.bytes.map UInt8.toNat)) ∧
    (∀ before piece after, pieces = before ++ piece :: after →
      (∀ good ∈ before, IsOctet 16 good) → ¬ IsOctet 16 piece →
      ∃ error, parse text = .error error ∧
        error.message = "bad octet: " ++ String.ofList piece) ∧
    ((∀ piece ∈ pieces, IsOctet 16 piece) → pieces.length ≠ 6 →
      ∃ error, parse text = .error error ∧
        error.message = "incorrect number of bytes: " ++ pieces.length.repr) := by
  intro pieces
  refine ⟨exists_parse_eq_ok_iff, fun address => parse_eq_ok_iff,
    fun before piece after split good bad => ?_, fun good count => ?_⟩
  · obtain ⟨found, -, refused⟩ := Text.assemble_of_not_isOctet good bad
    refine ⟨.octet (String.ofList piece), ?_, rfl⟩
    rw [parse_eq_assemble, show text.toList.splitOn ':' = _ from split]
    exact refused
  · obtain ⟨octets, same, refused⟩ :=
      Text.assemble_of_length_ne ofBytes?_eq_some_iff exists_bytes_eq_iff good count
    rw [parse_eq_assemble, ← same]
    exact ⟨.count octets.length, refused, rfl⟩

/-- The third of seven pieces has a character that is no digit, so neither the empty piece and the
large one behind it nor their number matter; seven octets are counted, six are an address. -/
theorem parse_accepts_six_octets_first_fault :
    let before : List (List Char) := [['a'], ['+', '0', '0', 'F', 'f']]
    let piece : List Char := ['1', 'g']
    let after : List (List Char) := [[], ['1', '0', '0'], ['0'], ['0']]
    "a:+00Ff:1g::100:0:0".toList.splitOn ':' = before ++ piece :: after ∧
    (∀ good ∈ before, IsOctet 16 good) ∧ ¬ IsOctet 16 piece ∧
    (∃ error, parse "a:+00Ff:1g::100:0:0" = .error error ∧ error.message = "bad octet: 1g") ∧
    (∃ error, parse "1:2:3:4:5:6:7" = .error error ∧
      error.message = "incorrect number of bytes: 7") ∧
    ∃ address, parse "a8:40:+25:0ff:77:0" = .ok address := by
  intro before piece after
  have split : "a:+00Ff:1g::100:0:0".toList.splitOn ':' = before ++ piece :: after := by decide
  have good : ∀ good ∈ before, IsOctet 16 good := by decide
  have bad : ¬ IsOctet 16 piece := by decide
  obtain ⟨-, -, faults, -⟩ := parse_accepts_six_octets "a:+00Ff:1g::100:0:0"
  obtain ⟨error, refused, named⟩ := faults before piece after split good bad
  exact ⟨split, good, bad, ⟨error, refused, named⟩,
    (parse_accepts_six_octets "1:2:3:4:5:6:7").2.2.2 (by decide) (by decide),
    (parse_accepts_six_octets "a8:40:+25:0ff:77:0").1.mpr (by decide)⟩

end OpenFlow.MacAddr
