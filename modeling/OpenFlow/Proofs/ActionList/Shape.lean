import OpenFlow.Proofs.ActionList.Dispatch
import OpenFlow.Proofs.Header.Shape

/-!
# Runs on packets of one shape

What is written in the fields of a packet cannot be told from where its headers end up. If a
list runs to its end on two packets of one shape, it leaves packets of one shape, hands on
packets of one shape to the same ports and groups, and writes the same into the log.
-/
namespace OpenFlow

/-- Two journals show the same in the log, whether it is kept or printed. -/
structure Journal.LogsLike (journal twin : Journal) : Prop where
  log : journal.log = twin.log
  printed : journal.printed = twin.printed

theorem Journal.LogsLike.of_eq {journal twin : Journal} (same : journal = twin) :
    journal.LogsLike twin :=
  same ▸ ⟨rfl, rfl⟩

theorem Journal.LogsLike.append {journal twin later laterTwin : Journal}
    (before : journal.LogsLike twin) (after : later.LogsLike laterTwin) :
    Journal.LogsLike (journal ++ later) (twin ++ laterTwin) where
  log := by rw [log_append, log_append, before.log, after.log]
  printed := by rw [printed_append, printed_append, before.printed, after.printed]

theorem Action.map_shape_effects_congr {packet twin : Packet}
    (same : packet.headers.shape = twin.headers.shape) (action : Action) :
    (action.effects packet).map (fun effect => effect.packet.headers.shape) =
      (action.effects twin).map fun effect => effect.packet.headers.shape := by
  cases action <;> simp [effects, SideEffect.packet, same]

namespace Datapath

variable {datapath : Datapath} {packet twin last lastTwin : Packet}
variable {actions : List Action} {effects effectsTwin : List SideEffect}

/-- A refusal names the port in the log, and nothing of the packet. -/
theorem logsLike_transmit (datapath : Datapath) (port : PortNo) (packet twin : Packet) :
    (datapath.transmit port packet).LogsLike (datapath.transmit port twin) := by
  unfold transmit
  split
  · cases datapath.logger <;> exact ⟨rfl, rfl⟩
  · exact ⟨rfl, rfl⟩

theorem noteUndefinedCopy_congr (same : packet.headers.shape = twin.headers.shape)
    (action : Action) (direction : CopyDirection) :
    datapath.noteUndefinedCopy action direction packet =
      datapath.noteUndefinedCopy action direction twin := by
  simp only [noteUndefinedCopy, HeaderStack.isNone_copyTtl?_congr same,
    HeaderStack.kinds_congr same]

theorem logsLike_eventsOf (same : packet.headers.shape = twin.headers.shape) (action : Action) :
    (datapath.eventsOf packet action).LogsLike (datapath.eventsOf twin action) := by
  cases action
  case output port => exact logsLike_transmit datapath port packet twin
  case copyTtlOut => exact .of_eq (noteUndefinedCopy_congr same .copyTtlOut .outward)
  case copyTtlIn => exact .of_eq (noteUndefinedCopy_congr same .copyTtlIn .inward)
  all_goals exact ⟨rfl, rfl⟩

theorem shapes_of_applyList (same : packet.headers.shape = twin.headers.shape)
    (succeeded : (datapath.applyList packet actions).result = .ok (last, effects))
    (succeededToo : (datapath.applyList twin actions).result = .ok (lastTwin, effectsTwin)) :
    last.headers.shape = lastTwin.headers.shape ∧
    effects.map (fun effect => effect.packet.headers.shape) =
      effectsTwin.map (fun effect => effect.packet.headers.shape) ∧
    (datapath.applyList packet actions).journal.LogsLike
      (datapath.applyList twin actions).journal := by
  -- The two runs go on from packets of one shape after each action.
  induction actions generalizing packet twin effects effectsTwin with
  | nil =>
    cases succeeded
    cases succeededToo
    exact ⟨same, rfl, ⟨rfl, rfl⟩⟩
  | cons action rest ih =>
    obtain ⟨next, late, moved, returned, rfl, records⟩ := applyList_cons_cases succeeded
    obtain ⟨nextTwin, lateTwin, movedToo, returnedToo, rfl, recordsToo⟩ :=
      applyList_cons_cases succeededToo
    have still := Action.shape_of_transform_congr same moved movedToo
    obtain ⟨final, later, logs⟩ := ih still returned returnedToo
    refine ⟨final, ?_, ?_⟩
    · rw [List.map_append, List.map_append, Action.map_shape_effects_congr same, later]
    · rw [records, recordsToo]
      exact (logsLike_eventsOf same action).append logs

/-- On two packets of one shape a list that succeeds on both has results of one shape, the same
side effects on packets of one shape, and the same log. -/
theorem applyList_shapes_agree (datapath : Datapath) (actions : List Action)
    (packet twin last lastTwin : Packet) (effects effectsTwin : List SideEffect)
    (same : packet.headers.shape = twin.headers.shape)
    (succeeded : (datapath.applyList packet actions).result = .ok (last, effects))
    (succeededToo : (datapath.applyList twin actions).result = .ok (lastTwin, effectsTwin)) :
    let journal := (datapath.applyList packet actions).journal
    let journalTwin := (datapath.applyList twin actions).journal
    last.headers.shape = lastTwin.headers.shape ∧
    effects.length = effectsTwin.length ∧
    effects.map SideEffect.action = effectsTwin.map SideEffect.action ∧
    effects.map (fun effect => effect.packet.headers.shape) =
      effectsTwin.map (fun effect => effect.packet.headers.shape) ∧
    journal.log = journalTwin.log ∧ journal.printed = journalTwin.printed := by
  intro journal journalTwin
  obtain ⟨final, shapes, logs⟩ := shapes_of_applyList same succeeded succeededToo
  have handed : effects.map SideEffect.action = effectsTwin.map SideEffect.action := by
    rw [map_action_of_applyList succeeded, map_action_of_applyList succeededToo]
  have count : effects.length = effectsTwin.length := by
    simpa using congrArg List.length handed
  exact ⟨final, count, handed, shapes, logs.log, logs.printed⟩

/-- Both labels are popped, and what is left is no layout for a copy. -/
theorem applyList_shapes_agree_tag_popped :
    let datapath : Datapath := { badPorts := [.number 3] }
    let labels (first second : UInt8) : HeaderTag :=
      .mpls ⟨EtherType.mpls, ⟨7, 0, false, first⟩, [⟨8, 0, true, second⟩]⟩
    let start := Sample.packet [Sample.ether, labels 1 20, Sample.ipv4 9]
    let twin : Packet :=
      { Sample.packet [Sample.ether, labels 255 0, Sample.ipv4 0] with inPort := .any }
    let actions := [.decMplsTtl, .pushVlan EtherType.vlan, .output (.number 3), .popMpls,
      .popMpls, .copyTtlOut, .group ⟨7⟩]
    let last := Sample.packet [Sample.ether, Sample.vlan 1 0, Sample.ipv4 9]
    let lastTwin : Packet :=
      { Sample.packet [Sample.ether, Sample.vlan 1 0, Sample.ipv4 0] with inPort := .any }
    start.headers.shape = twin.headers.shape ∧
    ∃ effects effectsTwin,
      (datapath.applyList start actions).result = .ok (last, effects) ∧
      (datapath.applyList twin actions).result = .ok (lastTwin, effectsTwin) ∧
      effectsTwin.map (fun effect => effect.packet.headers.shape) =
        [[.ether, .vlan, .mpls 2, .ipv4], [.ether, .vlan, .ipv4]] ∧
      (datapath.applyList twin actions).journal.log =
        [(.warn, "output to 3: no such port: 3"),
          (.note, "copy_ttl_out undefined for headers [ETHER/VLAN/IPv4], ignored")] := by
  intro datapath labels start twin actions last lastTwin
  have same : start.headers.shape = twin.headers.shape := rfl
  have succeeded : (datapath.applyList start actions).result = .ok (last,
      [.output (.number 3)
          (Sample.packet [Sample.ether, Sample.vlan 1 0, labels 0 20, Sample.ipv4 9]),
        .group ⟨7⟩ last]) := rfl
  have succeededToo : (datapath.applyList twin actions).result = .ok (lastTwin,
      [.output (.number 3)
          { Sample.packet [Sample.ether, Sample.vlan 1 0, labels 254 0, Sample.ipv4 0] with
            inPort := .any },
        .group ⟨7⟩ lastTwin]) := rfl
  have kept : (datapath.applyList start actions).journal.log =
      [(.warn, "output to 3: no such port: 3"),
        (.note, "copy_ttl_out undefined for headers [ETHER/VLAN/IPv4], ignored")] := by decide
  obtain ⟨-, -, -, shapes, log, -⟩ :=
    applyList_shapes_agree datapath actions start twin _ _ _ _ same succeeded succeededToo
  exact ⟨same, _, _, succeeded, succeededToo, shapes.symm, log.symm.trans kept⟩

end Datapath

end OpenFlow
