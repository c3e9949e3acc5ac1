import OpenFlow.Address.Ipv4
import OpenFlow.Proofs.Text.Pieces

/-!
# IPv4 addresses read from text

The text is split at its dots. It is an address if and only if it has four pieces and each is an
octet. The first piece that is none decides on the fault, however many pieces there are, so the
number of pieces is a fault only where each of them is an octet.
-/
namespace OpenFlow.Ipv4Addr

open Text (OctetNumeral OctetOverflow IsOctet)

variable {text : String} {address : Ipv4Addr}

theorem exists_bytes_eq_iff (octets : List UInt8) :
    (∃ address : Ipv4Addr, address.bytes = octets) ↔ octets.length = 4 := by
  constructor
  · rintro ⟨address, rfl⟩
    rfl
  · intro count
    obtain ⟨a, b, c, d, rfl⟩ := List.length_eq_four.mp count
    exact ⟨⟨a, b, c, d⟩, rfl⟩

/-- What is said of a piece that is no octet. -/
theorem message_of_not_isOctet {piece : List Char} {fault : Text.OctetFault}
    (bad : ¬ IsOctet 10 piece) (refused : Text.readOctet 10 piece = .error fault) :
    (piece = [] → fault.message = "cannot parse integer from empty string") ∧
      (piece ≠ [] → OctetOverflow 10 piece →
        fault.message = "number too large to fit in target type") ∧
      (piece ≠ [] → ¬ OctetOverflow 10 piece →
        fault.message = "invalid digit found in string") := by
  rcases Text.readOctet_of_not_isOctet bad with
    ⟨nothing, found⟩ | ⟨something, large, found⟩ | ⟨something, small, found⟩
  · cases refused.symm.trans found
    exact ⟨fun _ => rfl, absurd nothing, absurd nothing⟩
  · cases refused.symm.trans found
    exact ⟨fun nothing => absurd nothing something, fun _ _ => rfl,
      fun _ small => absurd large small⟩
  · cases refused.symm.trans found
    exact ⟨fun nothing => absurd nothing something, fun _ large => absurd large small,
      fun _ _ => rfl⟩

theorem parse_eq_assemble (text : String) :
    parse text = Text.assemble 10 (fun _ => ParseError.octet) ofBytes?
      (fun _ => .malformed text) (text.toList.splitOn '.') :=
  bind_congr fun octets => by cases ofBytes? octets <;> rfl

theorem parse_eq_ok_iff :
    parse text = .ok address ↔
      List.Forall₂ (OctetNumeral 10) (text.toList.splitOn '.')
        (address.bytes.map UInt8.toNat) := by
  rw [parse_eq_assemble, Text.assemble_eq_ok_iff ofBytes?_eq_some_iff]

theorem exists_parse_eq_ok_iff :
    (∃ address, parse text = .ok address) ↔
      (text.toList.splitOn '.').length = 4 ∧
        ∀ piece ∈ text.toList.splitOn '.', IsOctet 10 piece := by
  simp only [parse_eq_assemble]
  exact Text.exists_assemble_eq_ok_iff ofBytes?_eq_some_iff exists_bytes_eq_iff

/-- A text is read as an address if and only if its pieces between dots are four octets, whose
values are then the bytes in order. Otherwise the first piece that is no octet decides on the
fault: it is empty, or its digits are worth too much before another character comes, or another
character comes first. Where all are octets but are not four, the text is malformed. -/
theorem parse_accepts_four_octets (text : String) :
    let pieces := text.toList.splitOn '.'
    ((∃ address, parse text = .ok address) ↔
      pieces.length = 4 ∧ ∀ piece ∈ pieces, IsOctet 10 piece) ∧
    (∀ address, parse text = .ok address ↔
      List.Forall₂ (OctetNumeral 10) pieces (address.bytes.map UInt8.toNat)) ∧
    (∀ before piece after, pieces = before ++ piece :: after →
      (∀ good ∈ before, IsOctet 10 good) → ¬ IsOctet 10 piece →
      ∃ error, parse text = .error error ∧
        (piece = [] → error.message = "cannot parse integer from empty string") ∧
        (piece ≠ [] → OctetOverflow 10 piece →
          error.message = "number too large to fit in target type") ∧
        (piece ≠ [] → ¬ OctetOverflow 10 piece →
          error.message = "invalid digit found in string")) ∧
    ((∀ piece ∈ pieces, IsOctet 10 piece) → pieces.length ≠ 4 →
      ∃ error, parse text = .error error ∧ error.message = "malformed ip: " ++ text) := by
  intro pieces
  refine ⟨exists_parse_eq_ok_iff, fun address => parse_eq_ok_iff,
    fun before piece after split good bad => ?_, fun good count => ?_⟩
  · obtain ⟨found, read, refused⟩ := Text.assemble_of_not_isOctet good bad
    refine ⟨.octet found, ?_, message_of_not_isOctet bad read⟩
    rw [parse_eq_assemble, show text.toList.splitOn '.' = _ from split]
    exact refused
  · obtain ⟨octets, -, refused⟩ :=
      Text.assemble_of_length_ne ofBytes?_eq_some_iff exists_bytes_eq_iff good count
    rw [parse_eq_assemble]
    exact ⟨.malformed text, refused, rfl⟩

/-- The third of five pieces is too large before its bad character comes, and the empty piece and
the large one behind it do not matter; five octets are malformed, four are an address. -/
theorem parse_accepts_four_octets_first_fault :
    let before : List (List Char) := [['1'], ['+', '0', '0', '7']]
    let piece : List Char := ['9', '9', '9', 'x']
    let after : List (List Char) := [[], ['3', '0', '0']]
    "1.+007.999x..300".toList.splitOn '.' = before ++ piece :: after ∧
    (∀ good ∈ before, IsOctet 10 good) ∧ ¬ IsOctet 10 piece ∧ piece ≠ [] ∧
    OctetOverflow 10 piece ∧
    (∃ error, parse "1.+007.999x..300" = .error error ∧
      error.message = "number too large to fit in target type") ∧
    (∃ error, parse "1.2.3.4.5" = .error error ∧ error.message = "malformed ip: 1.2.3.4.5") ∧
    ∃ address, parse "10.+0.000255.9" = .ok address := by
  intro before piece after
  have split : "1.+007.999x..300".toList.splitOn '.' = before ++ piece :: after := by decide
  have good : ∀ good ∈ before, IsOctet 10 good := by decide
  have bad : ¬ IsOctet 10 piece := by decide
  have large : OctetOverflow 10 piece := by decide
  have something : piece ≠ [] := List.cons_ne_nil _ _
  obtain ⟨-, -, faults, -⟩ := parse_accepts_four_octets "1.+007.999x..300"
  obtain ⟨error, refused, -, tooLarge, -⟩ := faults before piece after split good bad
  exact ⟨split, good, bad, something, large, ⟨error, refused, tooLarge something large⟩,
    (parse_accepts_four_octets "1.2.3.4.5").2.2.2 (by decide) (by decide),
    (parse_accepts_four_octets "10.+0.000255.9").1.mpr (by decide)⟩

end OpenFlow.Ipv4Addr
