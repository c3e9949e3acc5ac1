import OpenFlow.Proofs.Header.CopyTtl

/-!
# Changes of times to live

Setting, decrementing and copying leave all of the headers alone but their times to live.
The value that is set or decremented goes into one of them, and a copy brings in no value
that was not there before.
-/
namespace OpenFlow

namespace HeaderStack

variable {stack after copied : HeaderStack} {header : TtlHeader} {direction : CopyDirection}

theorem withoutTtls_setTtl (stack : HeaderStack) (header : TtlHeader) (ttl : UInt8) :
    (stack.setTtl header ttl).withoutTtls = stack.withoutTtls :=
  congrArg mk (map_editNth_replace (HeaderTag.withoutTtls_withTtl · ttl) stack header.kind 0)

theorem withoutTtls_decTtl (decremented : stack.decTtl header = .ok after) :
    after.withoutTtls = stack.withoutTtls := by
  rcases setTtl_of_decTtl decremented with ⟨-, rfl⟩ | ⟨ttl, -, -, rfl⟩
  · rfl
  · exact withoutTtls_setTtl stack header (ttl - 1)

theorem withoutTtls_copyTtl? (defined : stack.copyTtl? direction = some copied) :
    copied.withoutTtls = stack.withoutTtls :=
  (copies_of_copyTtl? defined).1

/-! ### The values afterwards -/

theorem map_ttl_slotsFrom (position : Nat) (tags : List HeaderTag) :
    (slotsFrom position tags).map TtlSlot.ttl = tags.flatMap HeaderTag.ttls := by
  induction tags generalizing position with
  | nil => rfl
  | cons tag rest ih =>
    have own : (tag.slots position).map TtlSlot.ttl = tag.ttls := by
      cases tag with
      | mpls tag => simp [HeaderTag.slots, HeaderTag.ttls, Function.comp_def]
      | _ => rfl
    rw [slotsFrom, List.map_append, own, ih, List.flatMap_cons]

theorem map_ttl_slots (stack : HeaderStack) : stack.slots.map TtlSlot.ttl = stack.ttls :=
  map_ttl_slotsFrom 0 stack.tags

/-- Both headers of a copy end up with a value that one of them had. -/
theorem ttls_copyTtl?_subset (defined : stack.copyTtl? direction = some copied) :
    copied.ttls ⊆ stack.ttls := by
  obtain ⟨-, first, second, rest, split, -, changed⟩ := copies_of_copyTtl? defined
  rw [← map_ttl_slots, ← map_ttl_slots, split, changed]
  cases direction <;> simp [CopyDirection.onSlots]

theorem mem_ttls_of_ttl? {ttl : UInt8} (shown : stack.ttl? header = some ttl) :
    ttl ∈ stack.ttls := by
  obtain ⟨⟨position, tag⟩, found, carried⟩ := Option.bind_eq_some_iff.mp shown
  -- The lookup shows the outermost value of a tag that is in the stack.
  refine List.mem_flatMap.mpr ⟨tag, mem_of_findNth found, List.mem_of_mem_head? ?_⟩
  rw [HeaderTag.head?_ttls]
  exact carried

end HeaderStack

namespace Action

/-- The action writes a time to live, whether a given value, a smaller one or that of another. -/
def retimes : Action → Bool
  | .setMplsTtl _ | .decMplsTtl | .setNwTtl _ | .decNwTtl | .copyTtlOut | .copyTtlIn => true
  | _ => false

theorem withoutTtls_of_transform {defaults : VlanDefaults} {packet next : Packet}
    {action : Action} (retimes : action.retimes = true)
    (moved : action.transform defaults packet = .ok next) :
    next.headers.withoutTtls = packet.headers.withoutTtls := by
  have decremented (header : TtlHeader) (moved : packet.decTtl header = .ok next) :
      next.headers.withoutTtls = packet.headers.withoutTtls := by
    obtain ⟨after, lowered, rfl⟩ := Run.map_eq_ok_iff.mp moved
    exact HeaderStack.withoutTtls_decTtl lowered
  have copied (direction : CopyDirection) :
      (packet.copyTtl direction).headers.withoutTtls = packet.headers.withoutTtls := by
    rw [Packet.copyTtl, Packet.mapHeaders]
    cases defined : packet.headers.copyTtl? direction with
    | none => rfl
    | some headers => exact HeaderStack.withoutTtls_copyTtl? defined
  cases action with
  | setMplsTtl ttl => cases moved; exact HeaderStack.withoutTtls_setTtl _ .mpls ttl
  | decMplsTtl => exact decremented .mpls moved
  | setNwTtl ttl => cases moved; exact HeaderStack.withoutTtls_setTtl _ .ipv4 ttl
  | decNwTtl => exact decremented .ipv4 moved
  | copyTtlOut => cases moved; exact copied .outward
  | copyTtlIn => cases moved; exact copied .inward
  | _ => cases retimes

end Action

end OpenFlow
