import OpenFlow.Proofs.ActionList.Dispatch

/-!
# What a run shows

A run shows the packet it returns, those in its side effects, and those it hands to ports
and groups, of which the last may be the copy of a packet that failed. All of them are
stages of the packet it started from, so what every action of the list keeps holds of all
that is shown, whether or not the run gets to its end. The copy of a packet that failed is
marked with a reason, which must not matter to what is kept.
-/
namespace OpenFlow

/-- The property holds of all packets that the run returns, reports, hands to a port, whether or
not the port takes them, or hands to a group. -/
structure Run.ShowsOnly (holds : Packet → Prop) (run : Run (Packet × List SideEffect)) : Prop where
  returned : ∀ last effects, run.result = .ok (last, effects) → holds last
  reported : ∀ last effects, run.result = .ok (last, effects) →
    ∀ effect ∈ effects, holds effect.packet
  attempted : ∀ handed ∈ run.journal.attempts, holds handed.2
  grouped : ∀ handed ∈ run.journal.groups, holds handed.2

theorem Run.ShowsOnly.mono {holds implied : Packet → Prop} {run : Run (Packet × List SideEffect)}
    (shows : run.ShowsOnly holds) (implies : ∀ packet, holds packet → implied packet) :
    run.ShowsOnly implied where
  returned last effects succeeded := implies last (shows.returned last effects succeeded)
  reported last effects succeeded effect member :=
    implies effect.packet (shows.reported last effects succeeded effect member)
  attempted handed member := implies handed.2 (shows.attempted handed member)
  grouped handed member := implies handed.2 (shows.grouped handed member)

namespace Datapath

variable {datapath : Datapath} {packet : Packet} {action : Action} {actions : List Action}
variable {holds : Packet → Prop}

/-- An action that succeeds hands on the packet it meets, as it is. -/
theorem packet_of_mem_attempts_eventsOf {handed : PortNo × Packet}
    (member : handed ∈ (datapath.eventsOf packet action).attempts) : handed.2 = packet := by
  rw [(accords_eventsOf packet action).attempts] at member
  obtain ⟨effect, reported, sent⟩ := List.mem_filterMap.mp member
  cases effect with
  | output port sentPacket =>
    cases sent
    exact Action.packet_of_mem_effects reported
  | group id applied => cases sent

theorem packet_of_mem_groups_eventsOf {handed : GroupId × Packet}
    (member : handed ∈ (datapath.eventsOf packet action).groups) : handed.2 = packet := by
  rw [(accords_eventsOf packet action).groups] at member
  obtain ⟨effect, reported, applied⟩ := List.mem_filterMap.mp member
  cases effect with
  | output port sent => cases applied
  | group id appliedPacket =>
    cases applied
    exact Action.packet_of_mem_effects reported

theorem showsOnly_nil (here : holds packet) : (datapath.applyList packet []).ShowsOnly holds := by
  refine ⟨?_, ?_, fun handed none => ?_, fun handed none => ?_⟩
  · rintro last effects ⟨⟩
    exact here
  · rintro last effects ⟨⟩ effect none
    cases none
  · cases none
  · cases none

/-- When the first action fails, only the copy for the controller is handed on. -/
theorem showsOnly_of_error {error : ActionError}
    (failed : action.transform datapath.config.vlanDefaults packet = .error error)
    (marked : holds { packet with packetInReason := some .invalidTtl }) :
    (datapath.applyList packet (action :: actions)).ShowsOnly holds := by
  rw [applyList_cons_of_error failed]
  refine ⟨?_, ?_, fun handed member => ?_, fun handed member => ?_⟩
  · rintro last effects ⟨⟩
  · rintro last effects ⟨⟩
  · rw [attempts_redirect] at member
    rw [List.mem_singleton.mp member]
    exact marked
  · rw [groups_redirect] at member
    cases member

/-- An action that succeeds shows only the packet it meets, and the rest starts from the next. -/
theorem showsOnly_of_ok {next : Packet}
    (moved : action.transform datapath.config.vlanDefaults packet = .ok next)
    (here : holds packet) (later : (datapath.applyList next actions).ShowsOnly holds) :
    (datapath.applyList packet (action :: actions)).ShowsOnly holds := by
  rw [applyList_cons_of_ok moved]
  refine ⟨fun last effects succeeded => ?_, fun last effects succeeded => ?_, ?_, ?_⟩
  · obtain ⟨⟨final, late⟩, returned, ⟨⟩⟩ := Run.map_eq_ok_iff.mp succeeded
    exact later.returned last late returned
  · obtain ⟨⟨final, late⟩, returned, ⟨⟩⟩ := Run.map_eq_ok_iff.mp succeeded
    refine List.forall_mem_append.mpr ⟨fun effect own => ?_, later.reported last late returned⟩
    rw [Action.packet_of_mem_effects own]
    exact here
  · rw [Journal.attempts_append]
    refine List.forall_mem_append.mpr ⟨fun handed own => ?_, later.attempted⟩
    rw [packet_of_mem_attempts_eventsOf own]
    exact here
  · rw [Journal.groups_append]
    refine List.forall_mem_append.mpr ⟨fun handed own => ?_, later.grouped⟩
    rw [packet_of_mem_groups_eventsOf own]
    exact here

theorem showsOnly_of_applyList
    (kept : ∀ action ∈ actions, ∀ packet next : Packet, holds packet →
      action.transform datapath.config.vlanDefaults packet = .ok next → holds next)
    (marked : ∀ packet, holds packet → holds { packet with packetInReason := some .invalidTtl })
    (initial : holds packet) : (datapath.applyList packet actions).ShowsOnly holds := by
  -- The property holds of the packet that the rest of the list starts from.
  induction actions generalizing packet with
  | nil => exact showsOnly_nil initial
  | cons action rest ih =>
    cases moved : action.transform datapath.config.vlanDefaults packet with
    | error error => exact showsOnly_of_error moved (marked packet initial)
    | ok next =>
      apply showsOnly_of_ok moved initial
      apply ih
      · intro other member
        exact kept other (List.mem_cons_of_mem action member)
      · exact kept action List.mem_cons_self packet next initial moved

end Datapath

end OpenFlow
