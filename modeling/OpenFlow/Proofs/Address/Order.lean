import Mathlib.Data.List.Sort
import Mathlib.Data.Nat.Digits.Lemmas
import OpenFlow.Address.Ipv4
import OpenFlow.Address.Mac
import OpenFlow.Proofs.Text.OctetNumeral

/-!
# Addresses in the order of numbers

The bytes of an address are the digits of a number, most significant first. Addresses are compared
byte by byte, which is how numbers of as many digits compare, so addresses are sorted exactly when
their numbers are.
-/
namespace OpenFlow

/-- The number that bytes stand for, the most significant first. -/
def bigEndian (bytes : List UInt8) : Nat := Text.worth 256 (bytes.map UInt8.toNat)

theorem bigEndian_nil : bigEndian [] = 0 := rfl

theorem bigEndian_cons (byte : UInt8) (bytes : List UInt8) :
    bigEndian (byte :: bytes) = byte.toNat * 256 ^ bytes.length + bigEndian bytes := by
  rw [bigEndian, Text.worth, List.map_cons, Nat.ofDigits_reverse_cons, List.length_map,
    Nat.mul_comm, Nat.add_comm, bigEndian, Text.worth]

theorem forall_mem_bytes_lt (bytes : List UInt8) :
    ∀ digit ∈ (bytes.map UInt8.toNat).reverse, digit < 256 := by
  intro digit inside
  rw [List.mem_reverse, List.mem_map] at inside
  obtain ⟨byte, -, rfl⟩ := inside
  exact byte.toNat_lt

theorem bigEndian_lt (bytes : List UInt8) : bigEndian bytes < 256 ^ bytes.length := by
  have bounded := Nat.ofDigits_lt_base_pow_length (by decide) (forall_mem_bytes_lt bytes)
  rwa [List.length_reverse, List.length_map] at bounded

/-- A higher digit decides, and equal ones leave it to the rest. -/
theorem compare_mul_add {m low low' : Nat} (bounded : low < m) (bounded' : low' < m)
    (high high' : Nat) :
    compare (high * m + low) (high' * m + low') =
      (compare high high').then (compare low low') := by
  obtain less | rfl | more := Nat.lt_trichotomy high high'
  · have step := Nat.mul_le_mul_right m (Nat.succ_le_of_lt less)
    rw [Nat.succ_mul] at step
    rw [Nat.compare_eq_lt.mpr less, Nat.compare_eq_lt.mpr (by omega)]
    rfl
  · have added : StrictMono (high * m + ·) := fun _ _ less => Nat.add_lt_add_left less _
    rw [Nat.compare_eq_eq.mpr rfl, ← cmp_eq_compare, added.cmp_map_eq, cmp_eq_compare]
    rfl
  · have step := Nat.mul_le_mul_right m (Nat.succ_le_of_lt more)
    rw [Nat.succ_mul] at step
    rw [Nat.compare_eq_gt.mpr more, Nat.compare_eq_gt.mpr (by omega)]
    rfl

theorem compare_bigEndian {first second : List UInt8} (same : first.length = second.length) :
    compare (bigEndian first) (bigEndian second) = compare first second := by
  induction first generalizing second with
  | nil =>
    rw [List.length_nil, eq_comm, List.length_eq_zero_iff] at same
    subst same
    rfl
  | cons byte first ih =>
    obtain ⟨byte', second, rfl⟩ := List.exists_cons_of_length_eq_add_one same.symm
    have rest := Nat.succ.inj same
    have bytewise : compare byte.toNat byte'.toNat = compare byte byte' := by
      simp only [compare, compareOfLessAndEq, UInt8.lt_iff_toNat_lt, UInt8.toNat_inj]
    -- The bytes behind the first are worth less than a step of the first, on either side.
    have bounded := bigEndian_lt second
    rw [← rest] at bounded
    rw [bigEndian_cons, bigEndian_cons, ← rest, compare_mul_add (bigEndian_lt first) bounded,
      ih rest, bytewise, List.compare_cons_cons]

theorem bigEndian_inj {first second : List UInt8} (same : first.length = second.length) :
    bigEndian first = bigEndian second ↔ first = second := by
  rw [← Nat.compare_eq_eq, compare_bigEndian same, Std.LawfulEqOrd.compare_eq_iff_eq]

/-! ### IPv4 addresses -/

namespace Ipv4Addr

theorem compare_bytes (first second : Ipv4Addr) :
    compare first second = compare first.bytes second.bytes := by
  simp only [bytes, List.compare_cons_cons, List.compare_nil_nil, Ordering.then_eq]
  rfl

theorem bigEndian_bytes (address : Ipv4Addr) :
    bigEndian address.bytes =
      address.a.toNat * 2 ^ 24 +
        (address.b.toNat * 2 ^ 16 + (address.c.toNat * 2 ^ 8 + address.d.toNat)) := by
  simp only [bytes, bigEndian_cons, bigEndian_nil, List.length_cons, List.length_nil]
  omega

theorem toNat_shiftLeft_or (byte : UInt8) {low shift : UInt32} {n : Nat}
    (shifted : shift.toNat = n) (small : n ≤ 24) (bounded : low.toNat < 2 ^ n) :
    (byte.toUInt32 <<< shift ||| low).toNat = byte.toNat * 2 ^ n + low.toNat := by
  have room : byte.toNat * 2 ^ n < 2 ^ 32 := by
    calc byte.toNat * 2 ^ n
        < 2 ^ 8 * 2 ^ n := Nat.mul_lt_mul_of_pos_right byte.toNat_lt (Nat.two_pow_pos n)
      _ ≤ 2 ^ 8 * 2 ^ 24 := Nat.mul_le_mul_left _ (Nat.pow_le_pow_right (by decide) small)
      _ = 2 ^ 32 := by decide
  have unwrapped : n % 32 = n := Nat.mod_eq_of_lt (by omega)
  rw [UInt32.toNat_or, UInt32.toNat_shiftLeft, UInt8.toNat_toUInt32, shifted, unwrapped,
    Nat.shiftLeft_eq, Nat.mod_eq_of_lt room, ← Nat.shiftLeft_eq,
    ← Nat.shiftLeft_add_eq_or_of_lt bounded]

theorem toNat_toUInt32 (address : Ipv4Addr) : address.toUInt32.toNat = bigEndian address.bytes := by
  obtain ⟨a, b, c, d⟩ := address
  -- From the last byte to the first, each is shifted past all that is joined already.
  have boundB := b.toNat_lt
  have boundC := c.toNat_lt
  have boundD := d.toNat_lt
  have third : (c.toUInt32 <<< 8 ||| d.toUInt32).toNat = c.toNat * 2 ^ 8 + d.toNat :=
    toNat_shiftLeft_or c rfl (by decide) boundD
  have second : (b.toUInt32 <<< 16 ||| (c.toUInt32 <<< 8 ||| d.toUInt32)).toNat =
      b.toNat * 2 ^ 16 + (c.toUInt32 <<< 8 ||| d.toUInt32).toNat :=
    toNat_shiftLeft_or b rfl (by decide) (by omega)
  have first : (a.toUInt32 <<< 24 ||| (b.toUInt32 <<< 16 ||| (c.toUInt32 <<< 8 |||
      d.toUInt32))).toNat = a.toNat * 2 ^ 24 + (b.toUInt32 <<< 16 ||| (c.toUInt32 <<< 8 |||
      d.toUInt32)).toNat :=
    toNat_shiftLeft_or a rfl (by decide) (by omega)
  rw [toUInt32, UInt32.or_assoc, UInt32.or_assoc, first, second, third, bigEndian_bytes]

theorem toUInt32_ofUInt32 (number : UInt32) : (ofUInt32 number).toUInt32 = number := by
  have bounded := number.toNat_lt
  rw [← UInt32.toNat_inj, toNat_toUInt32, bigEndian_bytes]
  simp only [ofUInt32, UInt32.toNat_toUInt8, UInt32.toNat_shiftRight, UInt32.reduceToNat,
    Nat.reduceMod, Nat.shiftRight_eq_div_pow]
  omega

theorem ofUInt32_toUInt32 (address : Ipv4Addr) : ofUInt32 address.toUInt32 = address := by
  have same := toNat_toUInt32 (ofUInt32 address.toUInt32)
  rw [toUInt32_ofUInt32, toNat_toUInt32] at same
  have bytewise := (bigEndian_inj (by rfl)).mp same
  exact (Option.some.inj (congrArg ofBytes? bytewise)).symm

theorem compare_toNat_toUInt32 (first second : Ipv4Addr) :
    compare first second = compare first.toUInt32.toNat second.toUInt32.toNat := by
  have same : first.bytes.length = second.bytes.length := rfl
  rw [toNat_toUInt32, toNat_toUInt32, compare_bigEndian same, compare_bytes]

theorem compare_toUInt32 (first second : Ipv4Addr) :
    compare first second = compare first.toUInt32 second.toUInt32 := by
  rw [compare_toNat_toUInt32]
  simp only [compare, compareOfLessAndEq, UInt32.lt_iff_toNat_lt, UInt32.toNat_inj]

end Ipv4Addr

namespace MacAddr

theorem compare_bytes (first second : MacAddr) :
    compare first second = compare first.bytes second.bytes := by
  simp only [bytes, List.compare_cons_cons, List.compare_nil_nil, Ordering.then_eq]
  rfl

theorem compare_bigEndian_bytes (first second : MacAddr) :
    compare first second = compare (bigEndian first.bytes) (bigEndian second.bytes) := by
  have same : first.bytes.length = second.bytes.length := rfl
  rw [compare_bytes, compare_bigEndian same]

theorem bigEndian_bytes_lt (address : MacAddr) : bigEndian address.bytes < 2 ^ 48 := by
  have bounded := bigEndian_lt address.bytes
  have length : address.bytes.length = 6 := rfl
  rwa [length, show 256 = 2 ^ 8 from rfl, ← Nat.pow_mul] at bounded

end MacAddr

/-! ### Sorting -/

/-- What is sorted by an order that numbers tell is what has its numbers sorted. -/
theorem sorted_iff_map_sorted {α : Type} [Ord α] {number : α → Nat}
    (orders : ∀ first second, compare first second = compare (number first) (number second))
    (injective : Function.Injective number) (values sorted : List α) :
    sorted.Perm values ∧ sorted.Pairwise (fun first second => (compare first second).isLE) ↔
      sorted.map number = (values.map number).mergeSort := by
  have permuted := List.mergeSort_perm (values.map number) (· ≤ ·)
  have arranged := List.pairwise_mergeSort' (· ≤ ·) (values.map number)
  have numberwise : sorted.Pairwise (fun first second => (compare first second).isLE) ↔
      (sorted.map number).Pairwise (· ≤ ·) := by
    simp only [List.pairwise_map, orders, Nat.isLE_compare]
  rw [numberwise, ← List.map_perm_map_iff injective]
  constructor
  · -- Two increasing arrangements of the same numbers are one.
    rintro ⟨same, increasing⟩
    exact (same.trans permuted.symm).eq_of_pairwise' increasing arranged
  · intro same
    rw [same]
    exact ⟨permuted, arranged⟩

/-- The 32 bits of an IPv4 address and the 48 bits of a MAC address are its bytes, the most
significant first, and the IPv4 address is read back from them. Addresses compare as these numbers
do, so a list is sorted by the order of addresses exactly when it is sorted by their numbers. -/
theorem addresses_order_as_numbers :
    (∀ number : UInt32, (Ipv4Addr.ofUInt32 number).toUInt32 = number) ∧
    (∀ address : Ipv4Addr, Ipv4Addr.ofUInt32 address.toUInt32 = address) ∧
    (∀ address : Ipv4Addr, address.toUInt32.toNat = bigEndian address.bytes) ∧
    (∀ first second : Ipv4Addr, compare first second = compare first.toUInt32 second.toUInt32) ∧
    (∀ address : MacAddr, bigEndian address.bytes < 2 ^ 48) ∧
    (∀ first second : MacAddr,
      compare first second = compare (bigEndian first.bytes) (bigEndian second.bytes)) ∧
    (∀ addresses sorted : List Ipv4Addr,
      sorted.Perm addresses ∧ sorted.Pairwise (fun first second => (compare first second).isLE) ↔
        sorted.map (fun address => address.toUInt32.toNat) =
          (addresses.map fun address => address.toUInt32.toNat).mergeSort) ∧
    ∀ addresses sorted : List MacAddr,
      sorted.Perm addresses ∧ sorted.Pairwise (fun first second => (compare first second).isLE) ↔
        sorted.map (fun address => bigEndian address.bytes) =
          (addresses.map fun address => bigEndian address.bytes).mergeSort := by
  refine ⟨Ipv4Addr.toUInt32_ofUInt32, Ipv4Addr.ofUInt32_toUInt32, Ipv4Addr.toNat_toUInt32,
    Ipv4Addr.compare_toUInt32, MacAddr.bigEndian_bytes_lt, MacAddr.compare_bigEndian_bytes,
    sorted_iff_map_sorted Ipv4Addr.compare_toNat_toUInt32 ?_,
    sorted_iff_map_sorted MacAddr.compare_bigEndian_bytes ?_⟩
  · intro first second same
    have read := congrArg Ipv4Addr.ofUInt32 (UInt32.toNat_inj.mp same)
    rwa [Ipv4Addr.ofUInt32_toUInt32, Ipv4Addr.ofUInt32_toUInt32] at read
  · intro first second same
    have bytewise := (bigEndian_inj (by rfl)).mp same
    exact Option.some.inj (congrArg MacAddr.ofBytes? bytewise)

end OpenFlow
