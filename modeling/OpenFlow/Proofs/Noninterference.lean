import OpenFlow.Engine.Resolution
import OpenFlow.Proofs.ActionList.Dispatch

/-!
# Surroundings do not interfere

What a run returns, and what its groups are handed, depends on the packet, the actions
and the defaults of pushed VLAN tags alone. The log has no say in it, and a port that
refuses packets only keeps its own from being sent.
-/
namespace OpenFlow.Datapath

/-- Two runs that return the same and apply the same groups. With the same controller and no
port that refuses packets on the second side, the first side sends what the second does, except
to its own bad ports. -/
structure Alike (datapath other : Datapath) {α : Type} (run twin : Run α) : Prop where
  result : run.result = twin.result
  groups : run.journal.groups = twin.journal.groups
  sends : datapath.config.controller = other.config.controller → other.badPorts = [] →
    run.journal.sends = twin.journal.sends.filter fun sent =>
      ∀ bad ∈ datapath.badPorts, bad.wire ≠ sent.1.wire

variable {datapath other : Datapath} {α β : Type} {run twin : Run α} {packet : Packet}

theorem Alike.pure (value : α) : datapath.Alike other (pure value) (pure value) :=
  ⟨rfl, rfl, fun _ _ => rfl⟩

theorem Alike.bind {next after : α → Run β} (first : datapath.Alike other run twin)
    (second : ∀ value, datapath.Alike other (next value) (after value)) :
    datapath.Alike other (run >>= next) (twin >>= after) := by
  cases returned : run.result with
  | error error =>
    rw [Run.bind_of_error returned, Run.bind_of_error (first.result.symm.trans returned)]
    exact ⟨rfl, first.groups, first.sends⟩
  | ok value =>
    rw [Run.bind_of_ok returned, Run.bind_of_ok (first.result.symm.trans returned)]
    -- Both runs go on with the same value, and the journals of the two parts are joined.
    refine ⟨(second value).result, ?_, fun controller free => ?_⟩
    · rw [Journal.groups_append, Journal.groups_append, first.groups, (second value).groups]
    · rw [Journal.sends_append, Journal.sends_append, List.filter_append,
        first.sends controller free, (second value).sends controller free]

theorem sends_transmit_of_free (free : other.badPorts = []) (port : PortNo) (packet : Packet) :
    Journal.sends (datapath.transmit port packet) =
      (Journal.sends (other.transmit port packet)).filter fun sent =>
        ∀ bad ∈ datapath.badPorts, bad.wire ≠ sent.1.wire := by
  have delivered : Journal.sends (other.transmit port packet) = [(port, packet)] := by
    simp [sends_transmit, refuses, free]
  have single : [SideEffect.output port packet].filterMap SideEffect.output? =
      [(port, packet)] := rfl
  rw [delivered, ← single]
  exact (accords_transmit port packet).sends

/-- One action does the same in both surroundings, whether it succeeds or is redirected. -/
theorem alike_applyAction (defaults : datapath.config.vlanDefaults = other.config.vlanDefaults)
    (action : Action) (packet : Packet) :
    datapath.Alike other (datapath.applyAction action packet) (other.applyAction action packet) := by
  unfold applyAction
  rw [defaults]
  cases moved : action.transform other.config.vlanDefaults packet with
  | ok next =>
    have here : datapath.Accords (datapath.eventsOf packet action) (action.effects packet) :=
      accords_eventsOf packet action
    have there : other.Accords (other.eventsOf packet action) (action.effects packet) :=
      accords_eventsOf packet action
    refine ⟨rfl, here.groups.trans there.groups.symm, fun _ free => ?_⟩
    -- Nothing is refused on the second side, so it sends all that was handed to ports.
    have all : Journal.sends (other.eventsOf packet action) =
        (action.effects packet).filterMap SideEffect.output? := by
      rw [there.sends]
      simp [free]
    rw [all]
    exact here.sends
  | error error =>
    refine ⟨rfl, (groups_redirect ..).trans (groups_redirect ..).symm, fun controller free => ?_⟩
    have quiet (logger : Logger) (level : LogLevel) (message : String) :=
      (logger.views_log level message).1
    simp only [redirect, Journal.sends_append, quiet, List.nil_append, controller]
    exact sends_transmit_of_free free other.config.controller _

theorem alike_applyList (defaults : datapath.config.vlanDefaults = other.config.vlanDefaults)
    (actions : List Action) (packet : Packet) :
    datapath.Alike other (datapath.applyList packet actions) (other.applyList packet actions) := by
  induction actions generalizing packet with
  | nil => exact .pure _
  | cons action rest ih =>
    -- Both runs go on with the packet that the first action left, so it is not fixed.
    refine (alike_applyAction defaults action packet).bind fun next => ?_
    exact (ih next).bind fun _ => .pure _

theorem alike_resolve (defaults : datapath.config.vlanDefaults = other.config.vlanDefaults)
    (actions : List Action) (packet : Packet) :
    datapath.Alike other (datapath.resolve packet actions) (other.resolve packet actions) := by
  induction actions generalizing packet with
  | nil => exact .pure _
  | cons action rest ih =>
    refine (alike_applyList defaults [action] packet).bind fun (next, effects) => ?_
    -- Whether the loop returns here is told by the action, not by its outcome.
    dsimp only
    split
    · exact .pure _
    · exact ih next

/-- In surroundings with the same defaults of pushed VLAN tags, an action list and an action set
return the same and apply the same groups, whatever the ports, the log and the controller. With
the same controller, bad ports take away the packets sent to them and no others. -/
theorem surroundings_do_not_interfere (datapath other : Datapath)
    (defaults : datapath.config.vlanDefaults = other.config.vlanDefaults) (packet : Packet)
    (actions : List Action) :
    datapath.Alike other (datapath.applyList packet actions) (other.applyList packet actions) ∧
    datapath.Alike other (datapath.applySet packet) (other.applySet packet) :=
  ⟨alike_applyList defaults actions packet, alike_resolve defaults _ _⟩

/-- The redirect of the second decrement is refused on one side, and so is a port of the same
number; the other packet is sent on both. -/
theorem surroundings_do_not_interfere_refused_redirect :
    let strict : Datapath :=
      { config := { logUndefinedCopyTtl := false }, badPorts := [.controller], logger := .discard }
    let packet := Sample.packet [Sample.ether, Sample.ipv4 1]
    let last := Sample.packet [Sample.ether, Sample.ipv4 0]
    let actions := [.copyTtlIn, .decNwTtl, .output (.number 0xFFFFFFFD), .output (.number 3),
      .decNwTtl, .output (.number 4)]
    (strict.applyList packet actions).result = (applyList {} packet actions).result ∧
    (strict.applyList packet actions).journal.sends = [(.number 3, last)] ∧
    (applyList {} packet actions).journal.sends =
      [(.number 0xFFFFFFFD, last), (.number 3, last),
        (.controller, { last with packetInReason := some .invalidTtl })] := by
  intro strict packet last actions
  obtain ⟨listed, -⟩ := surroundings_do_not_interfere strict {} rfl packet actions
  exact ⟨listed.result, listed.sends rfl rfl, rfl⟩

end OpenFlow.Datapath
