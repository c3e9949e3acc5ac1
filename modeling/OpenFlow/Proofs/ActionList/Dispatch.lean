import OpenFlow.Proofs.ActionList.Sequencing
import OpenFlow.Sample

/-!
# Side effects and what the surroundings saw

A run that succeeds reports one side effect for each output and group action, with
the packet as it was at that action. The ports and groups were handed exactly these
packets in this order, and each refusal by a port left one warning.
-/
namespace OpenFlow

namespace SideEffect

/-- The action that had this side effect. -/
def action : SideEffect → Action
  | .output port _ => .output port
  | .group id _ => .group id

def output? : SideEffect → Option (PortNo × Packet)
  | .output port packet => some (port, packet)
  | .group _ _ => none

def group? : SideEffect → Option (GroupId × Packet)
  | .group id packet => some (id, packet)
  | .output _ _ => none

end SideEffect

theorem Action.map_action_effects (packet : Packet) (action : Action) :
    (action.effects packet).map SideEffect.action = [action].filter Action.dispatches := by
  cases action <;> rfl

/-- An action that hands the packet on has one side effect, on the packet it meets. -/
theorem Action.exists_effects_eq_singleton {action : Action} (packet : Packet)
    (dispatching : action.dispatches = true) :
    ∃ effect, action.effects packet = [effect] ∧ effect.action = action ∧
      effect.packet = packet := by
  cases action <;> try cases dispatching
  case output port => exact ⟨.output port packet, rfl, rfl, rfl⟩
  case group id => exact ⟨.group id packet, rfl, rfl, rfl⟩

namespace Datapath

/-- A journal and the side effects that were reported tell the same story. -/
structure Accords (datapath : Datapath) (journal : Journal) (effects : List SideEffect) : Prop where
  groups : journal.groups = effects.filterMap SideEffect.group?
  attempts : journal.attempts = effects.filterMap SideEffect.output?
  sends : journal.sends = (effects.filterMap SideEffect.output?).filter fun sent =>
    ∀ bad ∈ datapath.badPorts, bad.wire ≠ sent.1.wire
  warnings : datapath.logger = .record →
    journal.log.filter (fun entry => entry.1 = .warn) =
      ((effects.filterMap SideEffect.output?).filter fun sent =>
        ∃ bad ∈ datapath.badPorts, bad.wire = sent.1.wire).map fun sent =>
          (.warn, "output to " ++ sent.1.text ++ ": " ++ (SendError.badPort sent.1).message)
  noErrors : ∀ entry ∈ journal.log, entry.1 ≠ .error

variable {datapath : Datapath} {packet last : Packet} {actions : List Action}
variable {journal later : Journal} {effects late : List SideEffect}

theorem Accords.empty : datapath.Accords [] [] :=
  ⟨rfl, rfl, rfl, fun _ => rfl, by simp [Journal.log]⟩

theorem Accords.append (before : datapath.Accords journal effects)
    (after : datapath.Accords later late) :
    datapath.Accords (journal ++ later) (effects ++ late) where
  groups := by simp [before.groups, after.groups]
  attempts := by simp [before.attempts, after.attempts]
  sends := by simp [before.sends, after.sends]
  warnings recording := by
    simp only [Journal.log_append, List.filter_append, List.filterMap_append, List.map_append,
      before.warnings recording, after.warnings recording]
  noErrors entry member := by
    rw [Journal.log_append, List.mem_append] at member
    exact member.elim (before.noErrors entry) (after.noErrors entry)

theorem accords_transmit (port : PortNo) (packet : Packet) :
    datapath.Accords (datapath.transmit port packet) [.output port packet] where
  groups := groups_transmit datapath port packet
  attempts := attempts_transmit datapath port packet
  sends := by
    have single : [SideEffect.output port packet].filterMap SideEffect.output? =
        [(port, packet)] := rfl
    rw [sends_transmit, single]
    by_cases refused : datapath.refuses port = true
    · have bad := refuses_iff.mp refused
      rw [if_pos refused, List.filter_cons_of_neg (by simpa using bad), List.filter_nil]
    · have free := mt refuses_iff.mpr refused
      rw [if_neg refused, List.filter_cons_of_pos (by simpa using free), List.filter_nil]
  warnings recording := by
    rw [transmit_eq_of_recording recording]
    -- A refusal is logged once, a packet that is taken is not logged at all.
    by_cases bad : ∃ bad ∈ datapath.badPorts, bad.wire = port.wire
    · simp [bad, Journal.log, SideEffect.output?]
    · simp [bad, Journal.log, SideEffect.output?]
  noErrors entry member := by
    rw [level_of_mem_log_transmit member]
    decide

theorem accords_noteUndefinedCopy (action : Action) (direction : CopyDirection) (packet : Packet) :
    datapath.Accords (datapath.noteUndefinedCopy action direction packet) [] := by
  unfold noteUndefinedCopy
  split
  -- What is logged here is a note, which is neither a warning nor an error.
  · refine ⟨by simp, by simp, by simp, fun recording => ?_, fun entry member => ?_⟩
    · simp [recording, Logger.log, Journal.log]
    · rw [Logger.level_of_mem_log member]
      decide
  · exact Accords.empty

theorem accords_eventsOf (packet : Packet) (action : Action) :
    datapath.Accords (datapath.eventsOf packet action) (action.effects packet) := by
  cases action with
  | output port => exact accords_transmit port packet
  | group id => exact ⟨rfl, rfl, rfl, fun _ => rfl, fun _ member => nomatch member⟩
  | copyTtlOut => exact accords_noteUndefinedCopy _ _ packet
  | copyTtlIn => exact accords_noteUndefinedCopy _ _ packet
  | _ => exact Accords.empty

theorem accords_applyList
    (succeeded : (datapath.applyList packet actions).result = .ok (last, effects)) :
    datapath.Accords (datapath.applyList packet actions).journal effects := by
  -- Each action adds to both accounts at their ends, so they stay in step along the list.
  induction actions generalizing packet effects with
  | nil =>
    cases succeeded
    exact Accords.empty
  | cons action rest ih =>
    obtain ⟨next, late, -, returned, rfl, records⟩ := applyList_cons_cases succeeded
    rw [records]
    exact (accords_eventsOf packet action).append (ih returned)

/-- Every action that hands the packet on has one side effect, and no other has any. -/
theorem map_action_of_applyList
    (succeeded : (datapath.applyList packet actions).result = .ok (last, effects)) :
    effects.map SideEffect.action = actions.filter Action.dispatches := by
  induction actions generalizing packet effects with
  | nil => cases succeeded; rfl
  | cons action rest ih =>
    obtain ⟨next, late, -, returned, rfl, -⟩ := applyList_cons_cases succeeded
    rw [List.map_append, Action.map_action_effects, ih returned, ← List.filter_append,
      List.singleton_append]

/-- The side effect of an action comes right after those of the run up to that action, with the
packet of that run. -/
theorem effect_of_append {before after : List Action} {action : Action}
    (succeeded : (datapath.applyList packet (before ++ action :: after)).result =
      .ok (last, effects))
    (dispatching : action.dispatches = true) :
    ∃ snapshot earlier effect later,
      (datapath.applyList packet before).result = .ok (snapshot, earlier) ∧
      effects = earlier ++ effect :: later ∧ effect.action = action ∧
      effect.packet = snapshot := by
  -- Cut the run before the action, then take that action off the second part.
  obtain ⟨snapshot, earlier, late, reached, returned, rfl⟩ := applyList_append_cases succeeded
  obtain ⟨next, later, -, -, rfl, -⟩ := applyList_cons_cases returned
  obtain ⟨effect, single, same, held⟩ := Action.exists_effects_eq_singleton snapshot dispatching
  refine ⟨snapshot, earlier, effect, later, reached, ?_, same, held⟩
  rw [single, List.singleton_append]

/-- The side effects of a run are those of its output and group actions in order, each with the
packet of the run up to that action. The groups, the ports and the warnings in the log give
the same account of them. -/
theorem applyList_accounts (datapath : Datapath) (recording : datapath.logger = .record)
    (packet last : Packet) (actions : List Action) (effects : List SideEffect)
    (succeeded : (datapath.applyList packet actions).result = .ok (last, effects)) :
    let journal := (datapath.applyList packet actions).journal
    let outputs := effects.filterMap SideEffect.output?
    effects.map SideEffect.action = actions.filter Action.dispatches ∧
    (∀ before action after, actions = before ++ action :: after → action.dispatches = true →
      ∃ snapshot earlier effect later,
        (datapath.applyList packet before).result = .ok (snapshot, earlier) ∧
        effects = earlier ++ effect :: later ∧ effect.action = action ∧
        effect.packet = snapshot) ∧
    journal.groups = effects.filterMap SideEffect.group? ∧
    journal.sends = outputs.filter (fun sent =>
      ∀ bad ∈ datapath.badPorts, bad.wire ≠ sent.1.wire) ∧
    journal.log.filter (fun entry => entry.1 = .warn) =
      (outputs.filter fun sent => ∃ bad ∈ datapath.badPorts, bad.wire = sent.1.wire).map
        (fun sent =>
          (.warn, "output to " ++ sent.1.text ++ ": " ++ (SendError.badPort sent.1).message)) ∧
    ∀ entry ∈ journal.log, entry.1 ≠ .error := by
  intro journal outputs
  have story := accords_applyList succeeded
  refine ⟨map_action_of_applyList succeeded, ?_, story.groups, story.sends,
    story.warnings recording, story.noErrors⟩
  rintro before action after rfl dispatching
  exact effect_of_append succeeded dispatching

/-- A port that shares its number with a refused one, between two that take the packet. -/
theorem applyList_accounts_shared_number :
    let datapath : Datapath := { badPorts := [.controller] }
    let early := Sample.packet [Sample.ether, Sample.ipv4 9]
    let late := Sample.packet [Sample.ether, Sample.ipv4 8]
    let actions := [.output (.number 3), .decNwTtl, .output (.number 0xFFFFFFFD), .group ⟨7⟩,
      .copyTtlIn, .output (.number 4)]
    let run := datapath.applyList early actions
    run.result = .ok (late, [.output (.number 3) early, .output (.number 0xFFFFFFFD) late,
      .group ⟨7⟩ late, .output (.number 4) late]) ∧
    run.journal.groups = [(⟨7⟩, late)] ∧
    run.journal.sends = [(.number 3, early), (.number 4, late)] ∧
    run.journal.log.filter (fun entry => entry.1 = .warn) =
      [(.warn, "output to 4294967293: no such port: 4294967293")] := by
  intro datapath early late actions run
  have succeeded : run.result = .ok (late, [.output (.number 3) early,
      .output (.number 0xFFFFFFFD) late, .group ⟨7⟩ late, .output (.number 4) late]) := rfl
  obtain ⟨-, -, groups, sends, warnings, -⟩ :=
    applyList_accounts datapath rfl early late actions _ succeeded
  exact ⟨succeeded, groups, sends, warnings⟩

end Datapath

end OpenFlow
