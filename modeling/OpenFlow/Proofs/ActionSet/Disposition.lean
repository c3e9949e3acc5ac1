import OpenFlow.Proofs.ActionList.Exhaustion
import OpenFlow.Proofs.ActionSet.Refinement

/-!
# What becomes of a packet

A resolved packet is handed on exactly once, to a group or to a port, or dropped,
or redirected to the controller because a time to live ran out. A group action in
the set keeps its output action from having any effect.
-/
namespace OpenFlow

namespace ActionSet

/-- The action that decides what becomes of the packet. -/
def decisive? (set : ActionSet) : Option Action := (set.get? .group).or (set.get? .output)

private theorem find?_dispatches_of_sorted {actions : List Action}
    (sorted : actions.Pairwise fun a b => a.slot < b.slot) :
    actions.find? Action.dispatches =
      (actions.find? fun action => action.slot = .group).or
        (actions.find? fun action => action.slot = .output) := by
  induction actions with
  | nil => rfl
  | cons head rest ih =>
    obtain ⟨before, sortedRest⟩ := List.pairwise_cons.mp sorted
    by_cases group : head.slot = .group
    · simp [Action.dispatches_eq, group]
    · by_cases output : head.slot = .output
      · -- Nothing comes after an output action, so there is no group action either.
        have noGroup : rest.find? (fun action => action.slot = .group) = none := by
          refine List.find?_eq_none.mpr fun other member => ?_
          have after : ActionSlot.output < other.slot := output ▸ before other member
          have distinct := ActionSlot.ne_of_lt
            (ActionSlot.lt_trans ActionSlot.group_lt_output after)
          simpa using distinct.symm
        simp [Action.dispatches_eq, output, noGroup]
      · have quiet : head.dispatches = false := by
          simp [Action.dispatches_eq, group, output]
        simp only [List.find?_cons, quiet, group, output, decide_false, ih sortedRest]

/-- The first action of a set that hands the packet on is the decisive one. -/
theorem find?_dispatches_toList (set : ActionSet) :
    set.toList.find? Action.dispatches = set.decisive? :=
  find?_dispatches_of_sorted set.sorted

/-- With a group action in the set, only the actions before it matter. -/
theorem exists_toList_eq_append {set : ActionSet} {group : Action}
    (held : set.get? .group = some group) :
    ∃ before after, set.toList = before ++ [group] ++ after ∧
      (∀ action ∈ before, action.dispatches = false) ∧ group.dispatches = true := by
  have first : set.toList.find? Action.dispatches = some group := by
    rw [find?_dispatches_toList, decisive?, held, Option.some_or]
  obtain ⟨dispatching, before, after, split, silent⟩ := List.find?_eq_some_iff_append.mp first
  exact ⟨before, after, by rw [split, List.append_cons], by simpa using silent, dispatching⟩

variable {set : ActionSet} {group : Action}

theorem get?_of_decisive?_group {id : GroupId} (decided : set.decisive? = some (.group id)) :
    set.get? .group = some (.group id) := by
  rcases Option.or_eq_some_iff.mp decided with held | ⟨-, held⟩
  · exact held
  · cases slot_of_get? held

theorem get?_of_decisive?_output {port : PortNo} (decided : set.decisive? = some (.output port)) :
    set.get? .group = none ∧ set.get? .output = some (.output port) := by
  rcases Option.or_eq_some_iff.mp decided with held | both
  · cases slot_of_get? held
  · exact both

/-- The actions up to a group action all come before the output action. -/
private theorem slot_lt_output {before : List Action} (held : set.get? .group = some group)
    (quiet : ∀ action ∈ before, action.dispatches = false) :
    ∀ action ∈ before ++ [group], action.slot < .output := by
  intro action member
  rcases List.mem_append.mp member with early | last
  · exact ActionSlot.lt_trans (Action.slot_lt_group (quiet action early)) ActionSlot.group_lt_output
  · rw [List.mem_singleton.mp last, slot_of_get? held]
    exact ActionSlot.group_lt_output

theorem upToDispatch_remove_output (held : set.get? .group = some group) :
    Action.upToDispatch (set.remove .output).2.toList = Action.upToDispatch set.toList := by
  obtain ⟨before, after, split, quiet, dispatching⟩ := exists_toList_eq_append held
  have kept : (before ++ [group]).filter (fun action => action.slot ≠ .output) =
      before ++ [group] := by
    refine List.filter_eq_self.mpr fun action member => ?_
    simpa using ActionSlot.ne_of_lt (slot_lt_output held quiet action member)
  change Action.upToDispatch (set.toList.filter _) = _
  rw [split, List.filter_append, kept, Action.upToDispatch_append quiet dispatching,
    Action.upToDispatch_append quiet dispatching]

theorem upToDispatch_write_output (held : set.get? .group = some group) (port : PortNo) :
    Action.upToDispatch (set.write (.output port)).2.toList = Action.upToDispatch set.toList := by
  obtain ⟨before, after, split, quiet, dispatching⟩ := exists_toList_eq_append held
  have earlier : ∀ action ∈ before ++ [group], action.slot < (Action.output port).slot :=
    slot_lt_output held quiet
  change Action.upToDispatch (place (.output port) set.toList) = _
  rw [split, place_append earlier,
    Action.upToDispatch_append quiet dispatching, Action.upToDispatch_append quiet dispatching]

end ActionSet

namespace Datapath

/-- What each result of a resolution goes with: how the packet was handed on, and by which action
of the set. -/
def Disposes (datapath : Datapath) (set : ActionSet) (journal : Journal) :
    Except ActionError Resolution → Prop
  | .ok (.effect (.group id last)) =>
    set.get? .group = some (.group id) ∧
    journal.groups = [(id, last)] ∧ journal.attempts = [] ∧ last.actionSet = .empty
  | .ok (.effect (.output port last)) =>
    set.get? .group = none ∧ set.get? .output = some (.output port) ∧
    journal.groups = [] ∧ journal.attempts = [(port, last)] ∧ last.actionSet = .empty
  | .ok (.drop last) =>
    set.get? .group = none ∧ set.get? .output = none ∧
    journal.groups = [] ∧ journal.attempts = [] ∧ last.actionSet = .empty
  | .error _ => ∃ copy, journal.groups = [] ∧
    journal.attempts = [(datapath.config.controller, copy)] ∧
    copy.packetInReason = some .invalidTtl ∧ copy.actionSet = .empty

variable {datapath : Datapath} {packet last : Packet} {set : ActionSet} {actions : List Action}
variable {effects : List SideEffect} {error : ActionError}

theorem applyList_keeps_actionSet (emptied : packet.actionSet = .empty)
    (succeeded : (datapath.applyList packet actions).result = .ok (last, effects)) :
    last.actionSet = .empty ∧ ∀ effect ∈ effects, effect.packet.actionSet = .empty := by
  refine applyList_keeps (fun packet => packet.actionSet = .empty) ?_ emptied succeeded
  intro action packet next emptied moved
  rw [Action.transform_frame moved]
  exact emptied

theorem disposes_of_ok (emptied : packet.actionSet = .empty)
    (succeeded : (datapath.applyList packet (Action.upToDispatch set.toList)).result =
      .ok (last, effects)) :
    datapath.Disposes set (datapath.applyList packet (Action.upToDispatch set.toList)).journal
      (.ok (.ofEffects last effects)) := by
  have story := accords_applyList succeeded
  have kept := applyList_keeps_actionSet emptied succeeded
  -- There is at most one side effect, and which it is can be read off the set.
  have decided : effects.map SideEffect.action = set.decisive?.toList := by
    rw [map_action_of_applyList succeeded, Action.filter_upToDispatch,
      ActionSet.find?_dispatches_toList]
  cases decisive : set.decisive? with
  | none =>
    obtain rfl : effects = [] := by simpa [decisive] using decided
    obtain ⟨noGroup, noOutput⟩ := Option.or_eq_none_iff.mp decisive
    exact ⟨noGroup, noOutput, story.groups, story.attempts, kept.1⟩
  | some action =>
    obtain ⟨effect, rfl, rfl⟩ : ∃ effect, effects = [effect] ∧ effect.action = action := by
      simpa [decisive] using decided
    have emptyAgain := kept.2 effect List.mem_cons_self
    cases effect with
    | output port snapshot =>
      obtain ⟨noGroup, held⟩ := ActionSet.get?_of_decisive?_output decisive
      exact ⟨noGroup, held, story.groups, story.attempts, emptyAgain⟩
    | group id snapshot =>
      exact ⟨ActionSet.get?_of_decisive?_group decisive, story.groups, story.attempts, emptyAgain⟩

theorem disposes_of_error (emptied : packet.actionSet = .empty)
    (failed : (datapath.applyList packet (Action.upToDispatch set.toList)).result = .error error) :
    datapath.Disposes set (datapath.applyList packet (Action.upToDispatch set.toList)).journal
      (.error error) := by
  obtain ⟨header, before, after, reached, -, point⟩ := exists_exhaustedAt failed
  obtain ⟨effects, reaches⟩ := point.reaches
  -- Only the last action of the list may hand the packet on, and it is not the one that failed.
  obtain rfl := effects_eq_nil_of_quiet (Action.quiet_of_upToDispatch_eq_append point.split) reaches
  have story := accords_applyList reaches
  rw [point.applyList_eq]
  refine ⟨{ reached with packetInReason := some .invalidTtl }, ?_, ?_, rfl, ?_⟩
  · rw [Journal.groups_append, story.groups, groups_redirect]
    rfl
  · rw [Journal.attempts_append, story.attempts, attempts_redirect]
    rfl
  · exact (applyList_keeps_actionSet emptied reaches).1

/-- A resolved packet is handed on once, as its result says, or dropped. With a group action in
the set the output action does not matter. -/
theorem applySet_disposes (datapath : Datapath) (packet : Packet) :
    datapath.Disposes packet.actionSet (datapath.applySet packet).journal
      (datapath.applySet packet).result ∧
    ∀ group, packet.actionSet.get? .group = some group →
      datapath.applySet { packet with actionSet := (packet.actionSet.remove .output).2 } =
        datapath.applySet packet ∧
      ∀ port, datapath.applySet
          { packet with actionSet := (packet.actionSet.write (.output port)).2 } =
        datapath.applySet packet := by
  refine ⟨?_, fun group held => ⟨?_, fun port => ?_⟩⟩
  -- The set is emptied before its actions run, which is where the invariant of the run starts.
  · rw [applySet, resolve_eq_applyList]
    cases returned : (datapath.applyList { packet with actionSet := .empty }
        (Action.upToDispatch packet.actionSet.toList)).result with
    | ok value => exact disposes_of_ok rfl returned
    | error error => exact disposes_of_error rfl returned
  · simp only [applySet, resolve_eq_applyList, ActionSet.upToDispatch_remove_output held]
  · simp only [applySet, resolve_eq_applyList, ActionSet.upToDispatch_write_output held]

theorem applySet_disposes_group_beside_output :
    let set := ActionSet.ofList [.output (.number 3), .group ⟨7⟩, .setQueue 1]
    let packet := { Sample.packet [Sample.ether, Sample.ipv4 9] with actionSet := set }
    let last := { Sample.packet [Sample.ether, Sample.ipv4 9] with queue := some 1 }
    set.get? .group = some (.group ⟨7⟩) ∧
    (applySet {} packet).journal.groups = [(⟨7⟩, last)] ∧
    (applySet {} packet).journal.attempts = [] ∧
    applySet {} { packet with actionSet := (set.write (.output .flood)).2 } =
      applySet {} packet := by
  intro set packet last
  obtain ⟨disposed, unmoved⟩ := applySet_disposes {} packet
  obtain ⟨held, groups, attempts, -⟩ := disposed
  exact ⟨held, groups, attempts, (unmoved _ held).2 .flood⟩

end Datapath

end OpenFlow
