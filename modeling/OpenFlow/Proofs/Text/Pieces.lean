import OpenFlow.Proofs.Text.OctetNumeral

/-!
# Octets read piece by piece

The pieces of a text are read one after the other, and a value is made of their octets only when
all are read. So the first piece that is no octet decides on the error, whatever stands behind it,
and the number of octets matters only where every piece is one.
-/
namespace OpenFlow.Text

variable {ε α : Type} {base : Nat} {fault : List Char → OctetFault → ε}
  {make? : List UInt8 → Option α} {malformed : List UInt8 → ε} {pieces : List (List Char)}

/-- Read every piece as an octet and make a value of all of them. -/
def assemble (base : Nat) (fault : List Char → OctetFault → ε) (make? : List UInt8 → Option α)
    (malformed : List UInt8 → ε) (pieces : List (List Char)) : Except ε α := do
  let octets ← pieces.mapM fun piece => (readOctet base piece).mapError (fault piece)
  match make? octets with
  | some value => .ok value
  | none => .error (malformed octets)

theorem mapError_readOctet_eq_ok_iff (fault : List Char → OctetFault → ε) {piece : List Char}
    {byte : UInt8} :
    (readOctet base piece).mapError (fault piece) = .ok byte ↔
      OctetNumeral base piece byte.toNat := by
  rw [← readOctet_eq_ok_iff]
  cases readOctet base piece <;> simp [Except.mapError]

theorem mapM_readOctet_eq_ok_iff (fault : List Char → OctetFault → ε) {octets : List UInt8} :
    (pieces.mapM fun piece => (readOctet base piece).mapError (fault piece)) = .ok octets ↔
      List.Forall₂ (OctetNumeral base) pieces (octets.map UInt8.toNat) := by
  rw [mapM_eq_ok_iff, List.forall₂_map_right_iff]
  simp only [mapError_readOctet_eq_ok_iff]

theorem exists_octets_iff :
    (∃ octets : List UInt8, List.Forall₂ (OctetNumeral base) pieces (octets.map UInt8.toNat)) ↔
      ∀ piece ∈ pieces, IsOctet base piece := by
  simp only [List.forall₂_map_right_iff, ← readOctet_eq_ok_iff, isOctet_iff, ← mapM_eq_ok_iff,
    exists_mapM_eq_ok_iff]

theorem assemble_of_octets {octets : List UInt8}
    (read : List.Forall₂ (OctetNumeral base) pieces (octets.map UInt8.toNat)) :
    assemble base fault make? malformed pieces =
      match make? octets with
      | some value => .ok value
      | none => .error (malformed octets) := by
  rw [assemble, (mapM_readOctet_eq_ok_iff fault).mpr read]
  rfl

theorem assemble_of_not_isOctet {before after : List (List Char)} {piece : List Char}
    (good : ∀ piece ∈ before, IsOctet base piece) (bad : ¬ IsOctet base piece) :
    ∃ found, readOctet base piece = .error found ∧
      assemble base fault make? malformed (before ++ piece :: after) = .error (fault piece found) := by
  cases refused : readOctet base piece with
  | ok byte => exact absurd (isOctet_iff.mpr ⟨byte, refused⟩) bad
  | error found =>
    refine ⟨found, rfl, ?_⟩
    -- Reading stops here, so nothing is asked of the pieces behind.
    have accepted : ∀ piece ∈ before,
        ∃ byte, (readOctet base piece).mapError (fault piece) = .ok byte := by
      intro piece inside
      obtain ⟨byte, read⟩ := isOctet_iff.mp (good piece inside)
      exact ⟨byte, by rw [read, Except.mapError]⟩
    have stopped : (readOctet base piece).mapError (fault piece) = .error (fault piece found) := by
      rw [refused, Except.mapError]
    rw [assemble, mapM_append_of_error accepted stopped after]
    rfl

section

variable {bytes : α → List UInt8} {count : Nat}
  (makes : ∀ {octets value}, make? octets = some value ↔ octets = bytes value)
  (counted : ∀ octets, (∃ value, bytes value = octets) ↔ octets.length = count)

include makes

theorem assemble_eq_ok_iff {value : α} :
    assemble base fault make? malformed pieces = .ok value ↔
      List.Forall₂ (OctetNumeral base) pieces ((bytes value).map UInt8.toNat) := by
  rw [← mapM_readOctet_eq_ok_iff fault, assemble]
  cases pieces.mapM fun piece => (readOctet base piece).mapError (fault piece) with
  | error error => simp [bind, Except.bind]
  | ok octets =>
    simp only [bind, Except.bind, Except.ok.injEq, ← makes]
    cases make? octets <;> simp

include counted

theorem exists_assemble_eq_ok_iff :
    (∃ value, assemble base fault make? malformed pieces = .ok value) ↔
      pieces.length = count ∧ ∀ piece ∈ pieces, IsOctet base piece := by
  simp only [← exists_octets_iff, assemble_eq_ok_iff makes]
  constructor
  · rintro ⟨value, numerals⟩
    have length := numerals.length_eq
    rw [List.length_map, (counted (bytes value)).mp ⟨value, rfl⟩] at length
    exact ⟨length, bytes value, numerals⟩
  · rintro ⟨length, octets, numerals⟩
    have same := numerals.length_eq
    rw [List.length_map, length] at same
    obtain ⟨value, rfl⟩ := (counted octets).mpr same.symm
    exact ⟨value, numerals⟩

theorem assemble_of_length_ne (good : ∀ piece ∈ pieces, IsOctet base piece)
    (other : pieces.length ≠ count) :
    ∃ octets, octets.length = pieces.length ∧
      assemble base fault make? malformed pieces = .error (malformed octets) := by
  obtain ⟨octets, numerals⟩ := exists_octets_iff.mpr good
  have same := numerals.length_eq
  rw [List.length_map] at same
  refine ⟨octets, same.symm, ?_⟩
  rw [assemble_of_octets numerals]
  cases made : make? octets with
  | none => rfl
  | some value =>
    -- The octets of a value are as many as there should be.
    rw [same] at other
    exact absurd ((counted octets).mp ⟨value, (makes.mp made).symm⟩) other

end

/-! ### Pieces that are written -/

/-- The text is so many pieces of the form, with the separator between them. -/
def Separated (separator : Char) (count : Nat) (form : List Char → Prop) (text : String) : Prop :=
  ∃ pieces : List (List Char), pieces.length = count ∧ (∀ piece ∈ pieces, form piece) ∧
    text.toList = [separator].intercalate pieces

section

variable {separator : Char} {form : List Char → Prop} {text : String}
  (free : ∀ piece, form piece → separator ∉ piece)

include free

theorem splitOn_eq_iff (formed : ∀ piece ∈ pieces, form piece) (nonempty : pieces ≠ []) :
    text.toList.splitOn separator = pieces ↔ text.toList = [separator].intercalate pieces := by
  constructor
  · rintro rfl
    exact (List.intercalate_splitOn separator).symm
  · intro joined
    rw [joined]
    exact List.splitOn_intercalate separator
      (fun piece inside => free piece (formed piece inside)) nonempty

theorem separated_iff {count : Nat} (positive : 0 < count) :
    Separated separator count form text ↔
      (text.toList.splitOn separator).length = count ∧
        ∀ piece ∈ text.toList.splitOn separator, form piece := by
  constructor
  · rintro ⟨pieces, rfl, formed, joined⟩
    rw [(splitOn_eq_iff free formed (List.ne_nil_of_length_pos positive)).mpr joined]
    exact ⟨rfl, formed⟩
  · rintro ⟨length, formed⟩
    exact ⟨_, length, formed, (List.intercalate_splitOn separator).symm⟩

/-- Where there is one numeral of the form for each octet, the text that joins these numerals is the
one text of the form that has the octets for its pieces. -/
theorem eq_intercalate_iff {write : Nat → List Char}
    (unique : ∀ {octet n}, n ≤ 255 → (OctetNumeral base octet n ∧ form octet ↔ octet = write n))
    {octets : List UInt8} (positive : 0 < octets.length) :
    text.toList = [separator].intercalate (octets.map fun byte => write byte.toNat) ↔
      List.Forall₂ (OctetNumeral base) (text.toList.splitOn separator) (octets.map UInt8.toNat) ∧
        Separated separator octets.length form text := by
  have formed : ∀ piece ∈ octets.map fun byte => write byte.toNat, form piece := by
    rintro _ inside
    obtain ⟨byte, -, rfl⟩ := List.mem_map.mp inside
    exact ((unique (Nat.le_of_lt_succ byte.toNat_lt)).mpr rfl).2
  have same : ∀ piece (byte : UInt8),
      form piece ∧ OctetNumeral base piece byte.toNat ↔ piece = write byte.toNat := by
    intro piece byte
    rw [and_comm, unique (Nat.le_of_lt_succ byte.toNat_lt)]
  -- The text is told by its pieces, and these one by one by what is written for the octets.
  rw [← splitOn_eq_iff free formed (by simpa using List.ne_nil_of_length_pos positive),
    ← List.forall₂_eq_eq_eq, List.forall₂_map_right_iff, separated_iff free positive,
    List.forall₂_map_right_iff]
  simp only [← same, List.forall₂_and_left]
  -- Numerals of the octets are as many as the octets, so their number need not be asked for.
  constructor
  · rintro ⟨inForm, numerals⟩
    exact ⟨numerals, numerals.length_eq, inForm⟩
  · rintro ⟨numerals, -, inForm⟩
    exact ⟨inForm, numerals⟩

end

end OpenFlow.Text
