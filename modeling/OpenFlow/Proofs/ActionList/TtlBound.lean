import OpenFlow.Proofs.ActionList.Shown
import OpenFlow.Proofs.Header.Retiming
import OpenFlow.Proofs.Header.Tagwise

/-!
# Times to live do not grow

A new label takes the time to live of the label it duplicates, that of the first IPv4 header
or zero, a copy moves a value from one header to another, and a decrement, which fails at
zero, never wraps around. So unless a run is told to set a time to live, none that it shows
is above those of the packet it starts from.
-/
namespace OpenFlow

theorem max_eq_ite (first second : UInt8) :
    max first second = if first ≤ second then second else first := rfl

instance instLawfulOrderMaxUInt8 : Std.LawfulOrderMax UInt8 where
  max_eq_or first second := by
    rw [max_eq_ite]
    split
    · exact .inr rfl
    · exact .inl rfl
  max_le_iff first second bound := by grind [max_eq_ite]

/-- No time to live in the tag is above the bound. -/
def HeaderTag.TtlsWithin (bound : UInt8) (tag : HeaderTag) : Prop :=
  ∀ ttl ∈ tag.ttls, ttl ≤ bound

namespace HeaderTag.TtlsWithin

variable {bound ttl : UInt8} {tag : HeaderTag}

theorem withTtl (within : tag.TtlsWithin bound) (low : ttl ≤ bound) :
    (tag.withTtl ttl).TtlsWithin bound := by
  cases tag with
  | mpls tag =>
    obtain ⟨-, others⟩ := List.forall_mem_cons.mp within
    exact List.forall_mem_cons.mpr ⟨low, others⟩
  | ipv4 header => exact List.forall_mem_singleton.mpr low
  | _ => exact within

theorem write (within : tag.TtlsWithin bound) (field : SetField) :
    (field.write tag).TtlsWithin bound := by
  have same : (field.write tag).ttls = tag.ttls := by
    cases tag <;> cases field <;> rfl
  rwa [TtlsWithin, same]

end HeaderTag.TtlsWithin

namespace HeaderStack

/-- The largest time to live in the stack, zero when there is none. -/
def largestTtl (stack : HeaderStack) : UInt8 := stack.ttls.max?.getD 0

/-- No time to live in the stack is above the bound. -/
def TtlsWithin (bound : UInt8) (stack : HeaderStack) : Prop := stack.Every (·.TtlsWithin bound)

variable {stack after : HeaderStack} {bound : UInt8}

theorem ttlsWithin_iff : stack.TtlsWithin bound ↔ ∀ ttl ∈ stack.ttls, ttl ≤ bound := by
  simp only [TtlsWithin, Every, HeaderTag.TtlsWithin, ttls, List.forall_mem_flatMap]

theorem ttlsWithin_largestTtl (stack : HeaderStack) : stack.TtlsWithin stack.largestTtl := by
  refine ttlsWithin_iff.mpr fun ttl member => ?_
  cases largest : stack.ttls.max? with
  | none =>
    rw [List.max?_eq_none_iff.mp largest] at member
    cases member
  | some most =>
    rw [largestTtl, largest]
    exact (List.max?_eq_some_iff.mp largest).2 ttl member

namespace TtlsWithin

theorem ttl?_le {header : TtlHeader} {ttl : UInt8} (within : stack.TtlsWithin bound)
    (shown : stack.ttl? header = some ttl) : ttl ≤ bound :=
  ttlsWithin_iff.mp within ttl (mem_ttls_of_ttl? shown)

theorem ipv4Ttl_le (within : stack.TtlsWithin bound) : stack.ipv4Ttl ≤ bound := by
  -- What a new label takes over is what a decrement would look at.
  change (stack.ttl? .ipv4).getD 0 ≤ bound
  cases shown : stack.ttl? .ipv4 with
  | none => exact UInt8.zero_le
  | some ttl => exact within.ttl?_le shown

theorem pushMpls (within : stack.TtlsWithin bound) (etherType : UInt16) :
    (stack.pushMpls etherType).TtlsWithin bound := by
  refine Every.pushMpls within (fun tag own => ?_) (List.forall_mem_singleton.mpr within.ipv4Ttl_le)
  -- The duplicate differs from the outermost label in the bottom-of-stack bit only.
  obtain ⟨outermost, -⟩ := List.forall_mem_cons.mp own
  exact List.forall_mem_cons.mpr ⟨outermost, own⟩

theorem popMpls (within : stack.TtlsWithin bound) : stack.popMpls.TtlsWithin bound :=
  Every.popMpls within fun _ _ own => (List.forall_mem_cons.mp own).2

theorem decTtl {header : TtlHeader} (within : stack.TtlsWithin bound)
    (decremented : stack.decTtl header = .ok after) : after.TtlsWithin bound := by
  rcases setTtl_of_decTtl decremented with ⟨-, rfl⟩ | ⟨ttl, shown, positive, rfl⟩
  · exact within
  · -- A decrement that succeeds starts above zero, so it does not wrap around.
    have lower : ttl - 1 ≤ ttl := by grind
    have low : ttl - 1 ≤ bound := UInt8.le_trans lower (within.ttl?_le shown)
    exact Every.setTtl within fun _ own => own.withTtl low

theorem copyTtl {direction : CopyDirection} (within : stack.TtlsWithin bound) :
    ((stack.copyTtl? direction).getD stack).TtlsWithin bound := by
  cases defined : stack.copyTtl? direction with
  | none => exact within
  | some copied =>
    have values := ttlsWithin_iff.mp within
    exact ttlsWithin_iff.mpr fun ttl member => values ttl (ttls_copyTtl?_subset defined member)

end TtlsWithin

end HeaderStack

namespace Action

/-- The action writes a time to live that it brings along. -/
def setsTtl : Action → Bool
  | .setMplsTtl _ | .setNwTtl _ => true
  | _ => false

theorem ttlsWithin_of_transform {defaults : VlanDefaults} {packet next : Packet} {action : Action}
    {bound : UInt8} (unset : action.setsTtl = false) (within : packet.headers.TtlsWithin bound)
    (moved : action.transform defaults packet = .ok next) : next.headers.TtlsWithin bound := by
  have decremented {header : TtlHeader} (moved : packet.decTtl header = .ok next) :
      next.headers.TtlsWithin bound := by
    obtain ⟨after, lowered, rfl⟩ := Run.map_eq_ok_iff.mp moved
    exact within.decTtl lowered
  cases action with
  | setMplsTtl ttl => cases unset
  | setNwTtl ttl => cases unset
  | decMplsTtl => exact decremented moved
  | decNwTtl => exact decremented moved
  | copyTtlOut => cases moved; exact within.copyTtl
  | copyTtlIn => cases moved; exact within.copyTtl
  | pushVlan etherType =>
    cases moved
    exact HeaderStack.Every.pushVlan within (List.forall_mem_nil _)
  | popVlan => cases moved; exact HeaderStack.Every.popVlan within
  | pushMpls etherType => cases moved; exact within.pushMpls etherType
  | popMpls => cases moved; exact within.popMpls
  | setField field =>
    cases moved
    exact HeaderStack.Every.setField within fun _ own => own.write field
  | _ => cases moved; exact within

end Action

namespace Datapath

/-- A run that is not told to set a time to live shows none above the largest of the packet it
starts from, not even in the copy of a packet whose time to live is exhausted. -/
theorem applyList_ttls_le_largestTtl (datapath : Datapath) (packet : Packet)
    (actions : List Action) (unset : ∀ action ∈ actions, action.setsTtl = false) :
    (datapath.applyList packet actions).ShowsOnly fun shown =>
      ∀ ttl ∈ shown.headers.ttls, ttl ≤ packet.headers.largestTtl := by
  simp only [← HeaderStack.ttlsWithin_iff]
  refine showsOnly_of_applyList (fun action member met next within moved => ?_)
    (fun _ within => within) packet.headers.ttlsWithin_largestTtl
  exact Action.ttlsWithin_of_transform (unset action member) within moved

/-- A label takes over the larger time to live, and the smaller one is copied and then exhausted. -/
theorem applyList_ttls_le_largestTtl_exhausted :
    let datapath : Datapath := {}
    let packet := Sample.packet [Sample.ether, Sample.ipv4 9, Sample.ipv4 1]
    let actions := [.pushMpls EtherType.mpls, .output (.number 2), .popMpls, .copyTtlOut,
      .decNwTtl, .decNwTtl]
    let run := datapath.applyList packet actions
    packet.headers.largestTtl = 9 ∧
    (run.journal.attempts.map fun handed => (handed.1, handed.2.headers.ttls)) =
      [(.number 2, [9, 9, 1]), (.controller, [0, 1])] ∧
    run.ShowsOnly fun shown => ∀ ttl ∈ shown.headers.ttls, ttl ≤ 9 := by
  intro datapath packet actions run
  have unset : ∀ action ∈ actions, action.setsTtl = false := by decide
  exact ⟨rfl, by decide +kernel, applyList_ttls_le_largestTtl datapath packet actions unset⟩

end Datapath

end OpenFlow
