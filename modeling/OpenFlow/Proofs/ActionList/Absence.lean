import OpenFlow.Proofs.ActionList.Sequencing
import OpenFlow.Proofs.Header.Kinds
import OpenFlow.Sample

/-!
# Headers that are not there

An action on a kind of header that the packet does not have leaves no trace: the packet stays
as it is, and nothing is sent, reported or logged. Only a push brings in a kind of header,
and it brings in its own. So on a packet without a kind, and without pushes of that kind, a
list does what is left of it when all actions on that kind are taken out.
-/
namespace OpenFlow

namespace Action

/-- The kind of header that the action acts on, and without which it does nothing. -/
def target? : Action → Option HeaderKind
  | .setMplsTtl _ | .decMplsTtl | .popMpls => some .mpls
  | .setNwTtl _ | .decNwTtl => some .ipv4
  | .popVlan => some .vlan
  | .pushVlan _ => some .ether
  | .setField field => some field.owner
  | .pushMpls _ | .copyTtlOut | .copyTtlIn => none
  | .output _ | .group _ | .setQueue _ | .experimenter _ => none

/-- The kind of header that the action can bring in. -/
def brings? : Action → Option HeaderKind
  | .pushVlan _ => some .vlan
  | .pushMpls _ => some .mpls
  | _ => none

variable {defaults : VlanDefaults} {packet next : Packet} {action : Action} {kind : HeaderKind}

theorem decTtl_of_lacks {header : TtlHeader} (lacks : header.kind ∉ packet.headers.kinds) :
    packet.decTtl header = .ok packet := by
  rw [Packet.decTtl, HeaderStack.decTtl_of_lacks lacks]
  rfl

/-- An action on a kind of header that is not there returns the packet as it was. -/
theorem transform_of_lacks (target : action.target? = some kind)
    (lacks : kind ∉ packet.headers.kinds) : action.transform defaults packet = .ok packet := by
  have edited (edit : HeaderTag → Edit) :
      ({ packet with headers := packet.headers.editFirst kind edit } : Packet) = packet := by
    rw [HeaderStack.editFirst_of_lacks lacks]
  cases action with
  | setMplsTtl ttl | setNwTtl ttl =>
    cases target
    exact congrArg Except.ok (edited _)
  | decMplsTtl | decNwTtl =>
    cases target
    exact decTtl_of_lacks lacks
  | pushVlan etherType =>
    cases target
    exact congrArg Except.ok (edited _)
  | popVlan =>
    cases target
    simp [transform, Packet.mapHeaders, HeaderStack.popVlan, HeaderStack.editFirst_of_lacks lacks]
  | popMpls =>
    cases target
    exact congrArg Except.ok (edited _)
  | setField field =>
    cases target
    simp only [transform, Packet.mapHeaders, HeaderStack.setField_eq_editFirst, edited]
  | _ => cases target

/-- No action brings in a kind of header other than the one it pushes. -/
theorem Moves.lacks {stack after : HeaderStack} (moves : Moves defaults stack action after)
    (other : action.brings? ≠ some kind) (lacks : kind ∉ stack.kinds) : kind ∉ after.kinds := by
  have old {anchor new : HeaderKind} (distinct : some new ≠ some kind)
      (present : kind ∈ HeaderKind.insertAfter anchor new stack.kinds) : kind ∈ stack.kinds := by
    rcases List.mem_cons.mp (HeaderKind.insertAfter_subset present) with rfl | old
    · exact absurd rfl distinct
    · exact old
  intro present
  apply lacks
  cases moves with
  | pushVlan etherType =>
    rw [HeaderStack.kinds_pushVlan] at present
    exact old other present
  | popVlan => exact (HeaderStack.kinds_popVlan_sublist stack).subset present
  | pushMpls etherType =>
    rw [HeaderStack.kinds_pushMpls] at present
    split at present
    · exact present
    · exact old other present
  | popMpls => exact (HeaderStack.kinds_popMpls_sublist stack).subset present
  | inPlace plain same => rwa [HeaderStack.kinds_congr same] at present

/-- An action on a kind of header does nothing but change headers. -/
theorem idle_of_target (target : action.target? = some kind) (datapath : Datapath) :
    datapath.eventsOf packet action = [] ∧ action.effects packet = [] := by
  cases action <;> first | exact ⟨rfl, rfl⟩ | cases target

end Action

namespace Datapath

variable {datapath : Datapath} {packet : Packet} {action : Action} {rest : List Action}

/-- An action that leaves no trace can be left out. -/
theorem applyList_cons_of_idle
    (moved : action.transform datapath.config.vlanDefaults packet = .ok packet)
    (idle : datapath.eventsOf packet action = [] ∧ action.effects packet = []) :
    datapath.applyList packet (action :: rest) = datapath.applyList packet rest := by
  obtain ⟨silent, unreported⟩ := idle
  rw [applyList, applyAction_of_ok moved, silent, unreported, ← Run.pure_eq]
  simp

/-- On a packet without a kind of header, and without pushes that bring it in, the actions on
that kind can be left out of a list: what is returned and reported, and all that is sent, applied
and logged on the way stays the same, also when the list fails. -/
theorem applyList_filter_target (datapath : Datapath) (kind : HeaderKind) (packet : Packet)
    (actions : List Action) (lacks : kind ∉ packet.headers.kinds)
    (unpushed : ∀ action ∈ actions, action.brings? ≠ some kind) :
    datapath.applyList packet (actions.filter fun action => action.target? ≠ some kind) =
      datapath.applyList packet actions := by
  -- The kind stays absent, so the packet that the rest of the list starts from lacks it too.
  induction actions generalizing packet with
  | nil => rfl
  | cons action rest ih =>
    obtain ⟨other, unpushedLater⟩ := List.forall_mem_cons.mp unpushed
    by_cases target : action.target? = some kind
    · rw [List.filter_cons_of_neg (by simpa using target), ih packet lacks unpushedLater]
      exact (applyList_cons_of_idle (Action.transform_of_lacks target lacks)
        (Action.idle_of_target target datapath)).symm
    · rw [List.filter_cons_of_pos (by simpa using target)]
      cases moved : action.transform datapath.config.vlanDefaults packet with
      | error error => rw [applyList_cons_of_error moved, applyList_cons_of_error moved]
      | ok next =>
        have lacksStill := (Action.moves_of_transform moved).lacks other lacks
        rw [applyList_cons_of_ok moved, applyList_cons_of_ok moved,
          ih next lacksStill unpushedLater]

/-- Without a label, four of seven actions can be left out; a tag is pushed all the same, and
the decrement of the IPv4 header still fails. -/
theorem applyList_filter_target_no_label :
    let datapath : Datapath := {}
    let packet := Sample.packet [Sample.ether, Sample.ipv4 0]
    let actions := [.setMplsTtl 3, .pushVlan EtherType.vlan, .decMplsTtl, .popMpls,
      .output (.number 2), .setField (.mplsLabel 5), .decNwTtl]
    .mpls ∉ packet.headers.kinds ∧ (∀ action ∈ actions, action.brings? ≠ some .mpls) ∧
    datapath.applyList packet [.pushVlan EtherType.vlan, .output (.number 2), .decNwTtl] =
      datapath.applyList packet actions ∧
    (datapath.applyList packet actions).result = .error (.invalidTtl .ipv4) := by
  intro datapath packet actions
  have lacks : .mpls ∉ packet.headers.kinds := by decide
  have unpushed : ∀ action ∈ actions, action.brings? ≠ some .mpls := by decide
  exact ⟨lacks, unpushed, applyList_filter_target datapath .mpls packet actions lacks unpushed,
    rfl⟩

end Datapath

end OpenFlow
