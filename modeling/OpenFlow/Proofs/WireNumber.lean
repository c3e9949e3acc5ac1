import Mathlib.Order.Monotone.Basic
import Mathlib.Tactic.IntervalCases
import OpenFlow.Port

/-!
# Ports and their numbers on the wire

The reserved ports take the eight highest numbers in the order in which they follow the concrete
ports. So reading a number as a port loses nothing and keeps the order, and a port is read back
unless it is a concrete one that carries a reserved number.
-/
namespace OpenFlow.PortNo

variable {w : UInt32}

def reserved : List PortNo :=
  [.inPort, .table, .normal, .flood, .all, .controller, .localPort, .any]

theorem ofWire_wire_of_reserved : ∀ p ∈ reserved, ofWire p.wire = p := by decide

theorem le_wire_of_reserved : ∀ p ∈ reserved, 0xFFFFFFF8 ≤ p.wire := by decide

/-- Behind the concrete ports the ranks go on from where no number reaches. -/
theorem rank_of_reserved : ∀ p ∈ reserved, p.rank = p.wire.toNat + 8 := by decide

theorem exists_reserved (high : 0xFFFFFFF8 ≤ w) : ∃ p ∈ reserved, p.wire = w := by
  have small := w.toNat_lt
  rw [UInt32.le_iff_toNat_le] at high
  rw [← UInt32.ofNat_toNat (x := w)]
  generalize w.toNat = n at small high ⊢
  -- There are eight numbers from the first reserved one on.
  change 4294967288 ≤ n at high
  interval_cases n <;> decide

theorem ofWire_of_lt (concrete : w < 0xFFFFFFF8) : ofWire w = .number w := by
  have other : ∀ p ∈ reserved, w ≠ p.wire := by
    rintro p inside rfl
    exact absurd (le_wire_of_reserved p inside) (UInt32.not_le.mpr concrete)
  simp only [reserved, List.forall_mem_cons, wire] at other
  simp [ofWire, other]

/-- A number is a concrete port's or, from the first reserved one on, a reserved port's. -/
theorem ofWire_cases (w : UInt32) :
    (w < 0xFFFFFFF8 ∧ ofWire w = .number w) ∨
    (0xFFFFFFF8 ≤ w ∧ ofWire w ∈ reserved ∧ (ofWire w).wire = w) := by
  by_cases concrete : w < 0xFFFFFFF8
  · exact .inl ⟨concrete, ofWire_of_lt concrete⟩
  · obtain ⟨p, inside, rfl⟩ := exists_reserved (UInt32.not_lt.mp concrete)
    rw [ofWire_wire_of_reserved p inside]
    exact .inr ⟨UInt32.not_lt.mp concrete, inside, rfl⟩

theorem wire_ofWire (w : UInt32) : (ofWire w).wire = w := by
  obtain ⟨-, read⟩ | ⟨-, -, same⟩ := ofWire_cases w
  · rw [read]
    rfl
  · exact same

theorem ofWire_wire_eq_iff (p : PortNo) :
    ofWire p.wire = p ↔ ¬ ∃ n, p = .number n ∧ 0xFFFFFFF8 ≤ n := by
  cases p with
  | number n =>
    obtain ⟨concrete, read⟩ | ⟨high, inside, -⟩ := ofWire_cases n
    · have low := UInt32.not_le.mpr concrete
      simp [wire, read, low]
    · -- What the number is read as is reserved, and a concrete port is not.
      have other : ofWire n ≠ .number n := by
        intro same
        rw [same] at inside
        simp [reserved] at inside
      simp [wire, other, high]
  | _ => simp [ofWire, wire]

/-! ### Order -/

/-- Where a number stands among the ports. -/
def place (n : Nat) : Nat := if n < 0xFFFFFFF8 then n else n + 8

theorem strictMono_place : StrictMono place := by
  intro m n less
  unfold place
  split <;> split <;> omega

theorem rank_ofWire (w : UInt32) : (ofWire w).rank = place w.toNat := by
  obtain ⟨concrete, read⟩ | ⟨high, inside, same⟩ := ofWire_cases w
  · have low : w.toNat < 0xFFFFFFF8 := UInt32.lt_iff_toNat_lt.mp concrete
    rw [read, place, if_pos low, rank]
  · have noLower : ¬ w.toNat < 0xFFFFFFF8 := Nat.not_lt.mpr (UInt32.le_iff_toNat_le.mp high)
    rw [rank_of_reserved _ inside, same, place, if_neg noLower]

theorem compare_ofWire (v w : UInt32) : compare (ofWire v) (ofWire w) = compare v w := by
  calc compare (ofWire v) (ofWire w)
      = compare (place v.toNat) (place w.toNat) := by
        rw [← rank_ofWire, ← rank_ofWire]
        rfl
    _ = compare v.toNat w.toNat := by
        rw [← cmp_eq_compare, strictMono_place.cmp_map_eq, cmp_eq_compare]
    _ = compare v w := by
        simp only [compare, compareOfLessAndEq, UInt32.lt_iff_toNat_lt, UInt32.toNat_inj]

/-- Reading a number as a port and writing it again gives the number, writing a port and reading it
again gives the port unless it is a concrete one that carries a reserved number, and then one with
the same number, and ports read from numbers stand in the order of the numbers. -/
theorem wire_numbers_correspond :
    (∀ w : UInt32, (ofWire w).wire = w) ∧
    (∀ p : PortNo,
      (ofWire p.wire = p ↔ ¬ ∃ n, p = .number n ∧ 0xFFFFFFF8 ≤ n) ∧
      (ofWire p.wire).wire = p.wire) ∧
    ∀ v w : UInt32, compare (ofWire v) (ofWire w) = compare v w :=
  ⟨wire_ofWire, fun p => ⟨ofWire_wire_eq_iff p, wire_ofWire p.wire⟩, compare_ofWire⟩

end OpenFlow.PortNo
