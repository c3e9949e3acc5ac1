import OpenFlow.Proofs.ActionSet.Shown
import OpenFlow.Proofs.Header.Tagwise

/-!
# Fields keep their width

On the wire a VLAN identifier has twelve bits and a priority three, a label twenty and its
traffic class three, and an IPv4 header six bits of differentiated services and two of
congestion notification. A value that is written is cut to the width of its field, a pushed
tag inherits its values or takes the defaults, and a pushed label repeats those that are
there. So headers in range stay in range, however large the values that a run is told to
write.
-/
namespace OpenFlow

/-! ### Headers in range -/

def VlanDefaults.InRange (defaults : VlanDefaults) : Prop :=
  defaults.vid ≤ 0xFFF ∧ defaults.pcp ≤ 7

def VlanTag.InRange (tag : VlanTag) : Prop := tag.vid ≤ 0xFFF ∧ tag.pcp ≤ 7

def LabelEntry.InRange (entry : LabelEntry) : Prop := entry.label ≤ 0xFFFFF ∧ entry.tc ≤ 7

def Ipv4Header.InRange (header : Ipv4Header) : Prop := header.dscp ≤ 63 ∧ header.ecn ≤ 3

/-- The fields of the tag fit into their bits on the wire, in each of its labels. -/
def HeaderTag.InRange : HeaderTag → Prop
  | .ether _ => True
  | .vlan tag => tag.InRange
  | .mpls tag => ∀ entry ∈ tag.entries, entry.InRange
  | .ipv4 header => header.InRange

def HeaderStack.InRange (stack : HeaderStack) : Prop := stack.Every HeaderTag.InRange

instance (defaults : VlanDefaults) : Decidable defaults.InRange :=
  inferInstanceAs (Decidable (_ ∧ _))

instance (tag : VlanTag) : Decidable tag.InRange := inferInstanceAs (Decidable (_ ∧ _))

instance (entry : LabelEntry) : Decidable entry.InRange := inferInstanceAs (Decidable (_ ∧ _))

instance (header : Ipv4Header) : Decidable header.InRange := inferInstanceAs (Decidable (_ ∧ _))

instance : DecidablePred HeaderTag.InRange
  | .ether _ => .isTrue trivial
  | .vlan tag => inferInstanceAs (Decidable tag.InRange)
  | .mpls tag => inferInstanceAs (Decidable (∀ entry ∈ tag.entries, entry.InRange))
  | .ipv4 header => inferInstanceAs (Decidable header.InRange)

instance (stack : HeaderStack) : Decidable stack.InRange :=
  inferInstanceAs (Decidable (∀ tag ∈ stack.tags, tag.InRange))

/-! ### Writing and pushing -/

namespace SetField

/-- A field that is written is cut to its width, and the others are left alone. -/
theorem inRange_writeVlan {tag : VlanTag} (own : tag.InRange) (field : SetField) :
    (field.writeVlan tag).InRange := by
  obtain ⟨vid, pcp⟩ := own
  cases field with
  | vlanVid value => exact ⟨UInt16.and_le_right, pcp⟩
  | vlanPcp value => exact ⟨vid, UInt8.and_le_right⟩
  | _ => exact ⟨vid, pcp⟩

theorem inRange_writeLabel {entry : LabelEntry} (own : entry.InRange) (field : SetField) :
    (field.writeLabel entry).InRange := by
  obtain ⟨label, tc⟩ := own
  cases field with
  | mplsLabel value => exact ⟨UInt32.and_le_right, tc⟩
  | mplsTc value => exact ⟨label, UInt8.and_le_right⟩
  | _ => exact ⟨label, tc⟩

theorem inRange_writeIpv4 {header : Ipv4Header} (own : header.InRange) (field : SetField) :
    (field.writeIpv4 header).InRange := by
  obtain ⟨dscp, ecn⟩ := own
  cases field with
  | ipDscp value => exact ⟨UInt8.and_le_right, ecn⟩
  | ipEcn value => exact ⟨dscp, UInt8.and_le_right⟩
  | _ => exact ⟨dscp, ecn⟩

end SetField

namespace HeaderTag

variable {tag : HeaderTag}

theorem InRange.write (own : tag.InRange) (field : SetField) : (field.write tag).InRange := by
  cases tag with
  | ether header => trivial
  | vlan tag => exact SetField.inRange_writeVlan own field
  | mpls tag =>
    -- Only the outermost label is written.
    obtain ⟨outermost, others⟩ := List.forall_mem_cons.mp own
    exact List.forall_mem_cons.mpr ⟨SetField.inRange_writeLabel outermost field, others⟩
  | ipv4 header => exact SetField.inRange_writeIpv4 own field

theorem inRange_withoutTtls : tag.withoutTtls.InRange ↔ tag.InRange := by
  cases tag with
  | mpls tag => simp [withoutTtls, InRange, LabelEntry.InRange, MplsTag.entries]
  | _ => rfl

end HeaderTag

/-- A new VLAN tag carries what it inherits from one in range, or the defaults. -/
theorem HeaderStack.InRange.vlanIdentity {stack : HeaderStack} {defaults : VlanDefaults}
    (within : stack.InRange) (default : defaults.InRange) (etherType : UInt16) :
    VlanTag.InRange
      ⟨(stack.vlanIdentity defaults).2, (stack.vlanIdentity defaults).1, etherType⟩ := by
  unfold HeaderStack.vlanIdentity
  split
  next position tag found => exact within (.vlan tag) (mem_of_findNth found)
  next => exact default

theorem Action.inRange_of_transform {defaults : VlanDefaults} {packet next : Packet}
    {action : Action} (default : defaults.InRange) (within : packet.headers.InRange)
    (moved : action.transform defaults packet = .ok next) : next.headers.InRange := by
  apply Action.every_of_transform _ _ _ _ _ _ within moved
  · intro tag
    exact HeaderTag.inRange_withoutTtls
  · intro field _ tag own
    exact own.write field
  · intro etherType
    exact within.vlanIdentity default etherType
  · intro tag own
    -- The duplicate differs from the outermost label in the bottom-of-stack bit only.
    obtain ⟨outermost, -⟩ := List.forall_mem_cons.mp own
    exact List.forall_mem_cons.mpr ⟨outermost, own⟩
  · intro etherType ttl
    have fresh : LabelEntry.InRange ⟨0, 0, true, ttl⟩ := ⟨UInt32.zero_le, UInt8.zero_le⟩
    exact List.forall_mem_singleton.mpr fresh
  · intro tag entry own
    exact (List.forall_mem_cons.mp own).2

namespace Datapath

/-- From headers and defaults in range, an action list and an action set show headers in range
only: in what they return and report, and in all that ports, groups and the controller are
handed. The values that the actions write may be of any size. -/
theorem fields_stay_in_range (datapath : Datapath) (packet : Packet) (actions : List Action)
    (default : datapath.config.vlanDefaults.InRange) (within : packet.headers.InRange) :
    ((datapath.applyList packet actions).ShowsOnly fun shown => shown.headers.InRange) ∧
    (datapath.applySet packet).ResolvesOnly fun shown => shown.headers.InRange := by
  constructor
  · apply showsOnly_of_applyList _ (fun _ within => within) within
    intro action _ packet next within moved
    exact Action.inRange_of_transform default within moved
  · apply resolvesOnly_of_applySet _ (fun _ within => within) within
    intro action _ packet next within moved
    exact Action.inRange_of_transform default within moved

/-- All bits are written to an identifier and a label, and a tag and a label are pushed that
repeat what is left of them; the packet then fails. -/
theorem fields_stay_in_range_oversized :
    let datapath : Datapath := {}
    let fields (shown : Packet) : List (List Nat) := shown.headers.tags.map fun
      | .ether _ => []
      | .vlan tag => [tag.vid.toNat, tag.pcp.toNat]
      | .mpls tag => tag.entries.map fun entry => entry.label.toNat
      | .ipv4 header => [header.dscp.toNat, header.ecn.toNat]
    let actions := [.setField (.vlanVid 0xFFFF), .pushVlan EtherType.qinq,
      .setField (.mplsLabel 0xFFFFFFFF), .pushMpls EtherType.mpls, .setField (.ipDscp 0xFF),
      .output (.number 2), .decNwTtl]
    let packet :=
      { Sample.packet [Sample.ether, Sample.vlan 5 0,
          .mpls (.single EtherType.mpls ⟨7, 0, true, 3⟩), Sample.ipv4 0] with
        actionSet := .ofList [.setField (.vlanPcp 0xFF), .group ⟨7⟩] }
    let listed := datapath.applyList packet actions
    let resolved := datapath.applySet packet
    datapath.config.vlanDefaults.InRange ∧ packet.headers.InRange ∧
    (listed.journal.attempts.map fun handed => (handed.1, fields handed.2)) =
      [(.number 2, [[], [4095, 0], [4095, 0], [1048575, 1048575], [63, 0]]),
        (.controller, [[], [4095, 0], [4095, 0], [1048575, 1048575], [63, 0]])] ∧
    (resolved.journal.groups.map fun handed => fields handed.2) = [[[], [5, 7], [7], [0, 0]]] ∧
    listed.ShowsOnly (fun shown => shown.headers.InRange) ∧
    resolved.ResolvesOnly fun shown => shown.headers.InRange := by
  intro datapath fields actions packet listed resolved
  have default : datapath.config.vlanDefaults.InRange := by decide
  have within : packet.headers.InRange := by decide
  obtain ⟨shows, resolves⟩ := fields_stay_in_range datapath packet actions default within
  exact ⟨default, within, by decide +kernel, by decide +kernel, shows, resolves⟩

end Datapath

end OpenFlow
