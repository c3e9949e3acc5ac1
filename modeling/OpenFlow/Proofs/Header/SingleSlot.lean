import OpenFlow.Proofs.ActionList.Exhaustion
import OpenFlow.Proofs.Header.Retiming
import OpenFlow.Proofs.Header.Rewriting

/-!
# Setting and decrementing a time to live

Both act on the outermost slot of a kind of header, which is the outermost label of the first
MPLS tag or the first IPv4 header. The slot takes the value that is set, or one less than it
had, and all other slots and the rest of the headers stay as they are. Each decrement needs a
value above zero, so after a value is set as many decrements succeed as that value says.
-/
namespace OpenFlow

namespace HeaderTag

theorem ttl?_withTtl {tag : HeaderTag} {header : TtlHeader} (own : tag.kind = header.kind)
    (ttl : UInt8) : (tag.withTtl ttl).ttl? = some ttl := by
  cases tag with
  | mpls tag => rfl
  | ipv4 tag => rfl
  | _ => cases header <;> cases own

/-- The first slot of a tag is the one that is set. -/
theorem slots_of_kind {tag : HeaderTag} {header : TtlHeader} (own : tag.kind = header.kind)
    (position : Nat) :
    ∃ old others, tag.ttl? = some old ∧ tag.slots position = ⟨position, header, old⟩ :: others ∧
      ∀ ttl, (tag.withTtl ttl).slots position = ⟨position, header, ttl⟩ :: others := by
  cases tag with
  | mpls tag =>
    cases header with
    | mpls =>
      exact ⟨tag.outermost.ttl, tag.inner.map fun entry => ⟨position, .mpls, entry.ttl⟩,
        rfl, rfl, fun ttl => rfl⟩
    | ipv4 => cases own
  | ipv4 tag =>
    cases header with
    | mpls => cases own
    | ipv4 => exact ⟨tag.ttl, [], rfl, rfl, fun ttl => rfl⟩
  | _ => cases header <;> cases own

end HeaderTag

namespace HeaderStack

/-- One stack is the other with a new value in the outermost slot of a kind of header. -/
structure Retimed (header : TtlHeader) (old new : UInt8) (stack after : HeaderStack) : Prop where
  rest : after.withoutTtls = stack.withoutTtls
  slots : ∃ outside position inside,
    stack.slots = outside ++ ⟨position, header, old⟩ :: inside ∧
    after.slots = outside ++ ⟨position, header, new⟩ :: inside ∧
    ∀ slot ∈ outside, slot.header ≠ header

variable {stack : HeaderStack} {header : TtlHeader} {ttl : UInt8}
variable {outer inner : List HeaderTag} {tag : HeaderTag}

/-! ### The first header of a kind -/

theorem setTtl_of_lacks (lacks : header.kind ∉ stack.kinds) (ttl : UInt8) :
    stack.setTtl header ttl = stack :=
  editFirst_of_lacks lacks _

theorem retimed_setTtl (present : header.kind ∈ stack.kinds) :
    ∃ old, stack.ttl? header = some old ∧
      ∀ ttl, Retimed header old ttl stack (stack.setTtl header ttl) := by
  rcases stack.lacks_or_first header.kind with lacks | ⟨outer, tag, inner, rfl, own, first⟩
  · exact absurd present lacks
  · obtain ⟨old, others, carried, slots, slotsAfter⟩ := HeaderTag.slots_of_kind own outer.length
    refine ⟨old, (ttl?_first first own).trans carried, fun ttl => ?_⟩
    constructor
    · exact withoutTtls_setTtl _ header ttl
    · -- The tags outside are of other kinds, so none of their slots is of this one.
      refine ⟨slotsFrom 0 outer, outer.length, others ++ slotsFrom (outer.length + 1) inner, ?_⟩
      refine ⟨?_, ?_, fun slot outside same => ?_⟩
      · simp [HeaderStack.slots, slotsFrom_append, slotsFrom, slots]
      · rw [setTtl_first first own]
        simp [HeaderStack.slots, slotsFrom_append, slotsFrom, slotsAfter]
      · exact first (same ▸ kind_mem_of_mem_slotsFrom outside)

theorem ttl?_setTtl (present : header.kind ∈ stack.kinds) (ttl : UInt8) :
    (stack.setTtl header ttl).ttl? header = some ttl := by
  rcases stack.lacks_or_first header.kind with lacks | ⟨outer, tag, inner, rfl, own, first⟩
  · exact absurd present lacks
  · have still : (tag.withTtl ttl).kind = header.kind := (tag.kind_withTtl ttl).trans own
    rw [setTtl_first first own, ttl?_first first still]
    exact HeaderTag.ttl?_withTtl own ttl

/-! ### Decrements -/

/-- Decrements after a value was set leave what is left of it, or fail once nothing is. -/
theorem foldlM_decTtl_setTtl (present : header.kind ∈ stack.kinds) (ttl : UInt8) (count : Nat) :
    (∃ left : UInt8, left.toNat + count = ttl.toNat ∧
      (List.replicate count header).foldlM decTtl (stack.setTtl header ttl) =
        .ok (stack.setTtl header left)) ∨
    (ttl.toNat < count ∧ (List.replicate count header).foldlM decTtl (stack.setTtl header ttl) =
      .error (.invalidTtl header)) := by
  induction count generalizing ttl with
  | zero => exact .inl ⟨ttl, rfl, rfl⟩
  | succ count ih =>
    have shown := ttl?_setTtl present ttl
    rw [List.replicate_succ, List.foldlM_cons]
    by_cases exhausted : ttl = 0
    · subst exhausted
      have failed : (stack.setTtl header 0).decTtl header = .error (.invalidTtl header) :=
        decTtl_eq_error_iff.mpr ⟨rfl, shown⟩
      rw [failed]
      exact .inr ⟨Nat.succ_pos count, rfl⟩
    · -- The first decrement sets one less, so the others find a value that was set again.
      have one := toNat_lowered exhausted
      have lowered : (stack.setTtl header ttl).decTtl header =
          .ok (stack.setTtl header (ttl - 1)) := by
        rw [decTtl_of_pos shown exhausted]
        exact congrArg Except.ok (rewrite_ttl_twice header ttl (ttl - 1) stack)
      rw [lowered]
      rcases ih (ttl - 1) with ⟨left, total, succeeded⟩ | ⟨more, failed⟩
      · exact .inl ⟨left, by omega, succeeded⟩
      · exact .inr ⟨by omega, failed⟩

theorem foldlM_decTtl_of_lacks (lacks : header.kind ∉ stack.kinds) (count : Nat) :
    (List.replicate count header).foldlM decTtl stack = .ok stack := by
  induction count with
  | zero => rfl
  | succ count ih =>
    rw [List.replicate_succ, List.foldlM_cons, decTtl_of_lacks lacks]
    exact ih

theorem exists_foldlM_decTtl_iff (stack : HeaderStack) (header : TtlHeader) (ttl : UInt8)
    (count : Nat) :
    (∃ after, (List.replicate count header).foldlM decTtl (stack.setTtl header ttl) =
      .ok after) ↔ count ≤ ttl.toNat ∨ header.kind ∉ stack.kinds := by
  by_cases present : header.kind ∈ stack.kinds
  · rcases foldlM_decTtl_setTtl present ttl count with ⟨left, total, succeeded⟩ | ⟨more, failed⟩
    · have enough : count ≤ ttl.toNat := by omega
      exact ⟨fun _ => .inl enough, fun _ => ⟨_, succeeded⟩⟩
    · constructor
      · rintro ⟨after, succeeded⟩
        cases failed.symm.trans succeeded
      · rintro (enough | lacks)
        · omega
        · exact absurd present lacks
  · -- Without such a header nothing is set and nothing is taken away.
    rw [setTtl_of_lacks present, foldlM_decTtl_of_lacks present]
    exact ⟨fun _ => .inr present, fun _ => ⟨stack, rfl⟩⟩

/-- Setting the time to live of a kind of header that is there changes the outermost slot of that
kind and nothing else. Decrementing takes one from the same slot; at zero it fails, and what the
controller is then sent has the headers as they were. Without such a header both leave the stack as
it is. So of the decrements after a value is set as many succeed as the value says. -/
theorem set_and_decrement_retime_one_slot (stack : HeaderStack) (header : TtlHeader) :
    (header.kind ∈ stack.kinds → ∃ old, stack.ttl? header = some old ∧
      (∀ ttl, Retimed header old ttl stack (stack.setTtl header ttl)) ∧
      (0 < old → ∃ lower after, lower.toNat + 1 = old.toNat ∧
        stack.decTtl header = .ok after ∧ Retimed header old lower stack after) ∧
      (old = 0 → stack.decTtl header = .error (.invalidTtl header) ∧
        ∀ (datapath : Datapath) (packet : Packet), packet.headers = stack →
          (datapath.applyAction header.decrement packet).journal.attempts =
            [(datapath.config.controller,
              { packet with packetInReason := some .invalidTtl })])) ∧
    (header.kind ∉ stack.kinds →
      (∀ ttl, stack.setTtl header ttl = stack) ∧ stack.decTtl header = .ok stack) ∧
    ∀ (ttl : UInt8) (count : Nat),
      (∃ after, (List.replicate count header).foldlM decTtl (stack.setTtl header ttl) =
        .ok after) ↔ count ≤ ttl.toNat ∨ header.kind ∉ stack.kinds := by
  refine ⟨fun present => ?_, fun lacks => ?_, exists_foldlM_decTtl_iff stack header⟩
  · obtain ⟨old, shown, retimed⟩ := retimed_setTtl present
    refine ⟨old, shown, retimed, fun positive => ?_, fun exhausted => ?_⟩
    · -- What is left of a positive value is set like any other.
      have nonzero : old ≠ 0 := UInt8.pos_iff_ne_zero.mp positive
      exact ⟨old - 1, _, toNat_lowered nonzero, decTtl_of_pos shown nonzero, retimed (old - 1)⟩
    · subst exhausted
      refine ⟨decTtl_eq_error_iff.mpr ⟨rfl, shown⟩, ?_⟩
      rintro datapath packet rfl
      exact Datapath.attempts_decrement_of_exhausted shown
  · exact ⟨setTtl_of_lacks lacks, decTtl_of_lacks lacks⟩

/-- The outermost of two labels is lowered and then set, the IPv4 header beneath it is exhausted,
and without a label there is nothing to do. -/
theorem set_and_decrement_retime_one_slot_two_labels :
    let labels (ttl : UInt8) : HeaderTag :=
      .mpls ⟨EtherType.mpls, ⟨7, 0, false, ttl⟩, [⟨8, 0, true, 9⟩]⟩
    let stack (ttl : UInt8) : HeaderStack :=
      ⟨[Sample.ether, labels ttl, Sample.ipv4 0, labels 3, Sample.ipv4 4]⟩
    let bare : HeaderStack := ⟨[Sample.ether, Sample.ipv4 6]⟩
    TtlHeader.mpls.kind ∈ (stack 2).kinds ∧
    (stack 2).decTtl .mpls = .ok (stack 1) ∧ Retimed .mpls 2 1 (stack 2) (stack 1) ∧
    Retimed .mpls 2 250 (stack 2) (stack 250) ∧
    TtlHeader.ipv4.kind ∈ (stack 2).kinds ∧
    (stack 2).decTtl .ipv4 = .error (.invalidTtl .ipv4) ∧
    TtlHeader.mpls.kind ∉ bare.kinds ∧ bare.decTtl .mpls = .ok bare ∧
    ¬ ∃ after, (List.replicate 251 .mpls).foldlM decTtl ((stack 2).setTtl .mpls 250) =
      .ok after := by
  intro labels stack bare
  have mpls : TtlHeader.mpls.kind ∈ (stack 2).kinds := by decide
  have ipv4 : TtlHeader.ipv4.kind ∈ (stack 2).kinds := by decide
  have lacks : TtlHeader.mpls.kind ∉ bare.kinds := by decide
  obtain ⟨onMpls, -, counted⟩ := set_and_decrement_retime_one_slot (stack 2) .mpls
  obtain ⟨old, shown, sets, lowers, -⟩ := onMpls mpls
  have two : (stack 2).ttl? .mpls = some 2 := rfl
  cases two.symm.trans shown
  obtain ⟨lower, after, one, lowered, retimed⟩ := lowers (by decide)
  obtain rfl : lower = 1 := UInt8.toNat_inj.mp (Nat.succ.inj one)
  have first : (stack 2).decTtl .mpls = .ok (stack 1) := rfl
  cases first.symm.trans lowered
  obtain ⟨old, shown, -, -, fails⟩ := (set_and_decrement_retime_one_slot (stack 2) .ipv4).1 ipv4
  have zero : (stack 2).ttl? .ipv4 = some 0 := rfl
  cases zero.symm.trans shown
  refine ⟨mpls, first, retimed, sets 250, ipv4, (fails rfl).1, lacks,
    ((set_and_decrement_retime_one_slot bare .mpls).2.1 lacks).2, fun succeeded => ?_⟩
  rcases (counted 250 251).mp succeeded with enough | absent
  · exact absurd enough (by decide)
  · exact absent mpls

end HeaderStack

end OpenFlow
