import OpenFlow.Engine.Resolution
import OpenFlow.Proofs.ActionList.Dispatch

/-!
# Action sets as action lists

Resolving an action set does what the action list executor does with the actions
of the set in the order of their slots, up to the first that hands the packet on.
-/
namespace OpenFlow

namespace Action

/-- The actions of a list up to and including the first that hands the packet on. -/
def upToDispatch : List Action → List Action
  | [] => []
  | action :: rest => if action.dispatches then [action] else action :: upToDispatch rest

variable {actions before : List Action} {action : Action}

theorem upToDispatch_prefix (actions : List Action) : upToDispatch actions <+: actions := by
  induction actions with
  | nil => exact List.prefix_rfl
  | cons action rest ih =>
    rw [upToDispatch]
    split
    · exact ⟨rest, rfl⟩
    · exact List.cons_prefix_cons.mpr ⟨rfl, ih⟩

/-- Actions that hand nothing on are all kept. -/
theorem upToDispatch_append_of_quiet (quiet : ∀ action ∈ before, action.dispatches = false)
    (after : List Action) : upToDispatch (before ++ after) = before ++ upToDispatch after := by
  induction before with
  | nil => rfl
  | cons first rest ih =>
    have silent := quiet first List.mem_cons_self
    have later := ih fun other member => quiet other (List.mem_cons_of_mem first member)
    rw [List.cons_append, upToDispatch, if_neg (by simp [silent]), later, List.cons_append]

theorem upToDispatch_of_quiet (quiet : ∀ action ∈ actions, action.dispatches = false) :
    upToDispatch actions = actions := by
  simpa [upToDispatch] using upToDispatch_append_of_quiet quiet []

theorem upToDispatch_append (quiet : ∀ action ∈ before, action.dispatches = false)
    (dispatching : action.dispatches = true) (after : List Action) :
    upToDispatch (before ++ [action] ++ after) = before ++ [action] := by
  have last : upToDispatch ([action] ++ after) = [action] := if_pos dispatching
  rw [List.append_assoc, upToDispatch_append_of_quiet quiet, last]

/-- What comes before another action of the part that is kept hands nothing on. -/
theorem quiet_of_upToDispatch_eq_append {after : List Action}
    (split : upToDispatch actions = before ++ action :: after) :
    ∀ action ∈ before, action.dispatches = false := by
  induction actions generalizing before with
  | nil => simp [upToDispatch] at split
  | cons head rest ih =>
    cases before with
    | nil => simp
    | cons first before =>
      by_cases dispatching : head.dispatches = true
      · simp [upToDispatch, dispatching] at split
      · rw [upToDispatch, if_neg dispatching, List.cons_append, List.cons.injEq] at split
        obtain ⟨rfl, later⟩ := split
        intro other member
        rcases List.mem_cons.mp member with rfl | inside
        · exact Bool.eq_false_iff.mpr dispatching
        · exact ih later other inside

/-- Only the last action of the part that is kept may hand the packet on. -/
theorem upToDispatch_cases (actions : List Action) :
    (∀ action ∈ upToDispatch actions, action.dispatches = false) ∨
    ∃ before action, upToDispatch actions = before ++ [action] ∧
      (∀ action ∈ before, action.dispatches = false) ∧ action.dispatches = true := by
  cases found : actions.find? Action.dispatches with
  | none =>
    have quiet : ∀ action ∈ actions, action.dispatches = false := by
      simpa using List.find?_eq_none.mp found
    exact .inl (by rwa [upToDispatch_of_quiet quiet])
  | some action =>
    obtain ⟨dispatching, before, after, rfl, silent⟩ := List.find?_eq_some_iff_append.mp found
    have quiet : ∀ action ∈ before, action.dispatches = false := by simpa using silent
    rw [List.append_cons, upToDispatch_append quiet dispatching]
    exact .inr ⟨before, action, rfl, quiet, dispatching⟩

theorem filter_upToDispatch (actions : List Action) :
    (upToDispatch actions).filter dispatches = (actions.find? dispatches).toList := by
  induction actions with
  | nil => rfl
  | cons action rest ih =>
    cases dispatching : action.dispatches with
    | true => simp [upToDispatch, dispatching]
    | false => simp [upToDispatch, dispatching, ih]

theorem effects_of_quiet (packet : Packet) (quiet : action.dispatches = false) :
    action.effects packet = [] := by
  rw [← List.isEmpty_iff, isEmpty_effects, quiet, Bool.not_false]

theorem transform_of_dispatches (defaults : VlanDefaults) (packet : Packet)
    (dispatching : action.dispatches = true) : action.transform defaults packet = .ok packet := by
  cases action <;> first | rfl | cases dispatching

end Action

namespace Datapath

variable {datapath : Datapath} {packet last : Packet} {actions before : List Action}
variable {effects : List SideEffect}

/-- The loop over single actions is one run over the list, cut off where the loop returns. -/
theorem resolve_eq_applyList :
    datapath.resolve packet actions =
      ⟨(datapath.applyList packet (Action.upToDispatch actions)).journal,
        (datapath.applyList packet (Action.upToDispatch actions)).result.map
          fun (last, effects) => .ofEffects last effects⟩ := by
  -- As a bind, the right side unfolds along with the loop.
  rw [← Run.bind_pure_eq]
  induction actions generalizing packet with
  | nil => simp [resolve, Action.upToDispatch, applyList, Resolution.ofEffects]
  | cons action rest ih =>
    by_cases dispatching : action.dispatches = true
    · simp [resolve, Action.upToDispatch, dispatching]
    · -- An action that hands nothing on adds no side effect that the loop could overlook.
      have silent := Action.effects_of_quiet packet (Bool.eq_false_iff.mpr dispatching)
      simp [resolve, Action.upToDispatch, dispatching, applyList, silent, ih]

/-- Actions that hand nothing on have no side effects. -/
theorem effects_eq_nil_of_quiet (quiet : ∀ action ∈ actions, action.dispatches = false)
    (succeeded : (datapath.applyList packet actions).result = .ok (last, effects)) :
    effects = [] := by
  have none : actions.filter Action.dispatches = [] :=
    List.filter_eq_nil_iff.mpr fun action member => by simp [quiet action member]
  have accounted := map_action_of_applyList succeeded
  rw [none] at accounted
  exact List.map_eq_nil_iff.mp accounted

/-- The one action that hands the packet on leaves it as it is. -/
theorem effects_eq_singleton_of_dispatch {action : Action}
    (quiet : ∀ action ∈ before, action.dispatches = false)
    (dispatching : action.dispatches = true)
    (succeeded : (datapath.applyList packet (before ++ [action])).result = .ok (last, effects)) :
    ∃ effect, effects = [effect] ∧ effect.packet = last := by
  obtain ⟨snapshot, early, late, reached, returned, rfl⟩ := applyList_append_cases succeeded
  obtain ⟨effect, single, -, held⟩ := Action.exists_effects_eq_singleton snapshot dispatching
  have silent := effects_eq_nil_of_quiet quiet reached
  obtain ⟨next, later, moved, ended, rfl, -⟩ := applyList_cons_cases returned
  rw [Action.transform_of_dispatches _ _ dispatching] at moved
  cases moved
  cases ended
  exact ⟨effect, by rw [silent, single, List.nil_append, List.append_nil], held⟩

/-- Resolving the action set of a packet is running the list of its actions up to the first that
hands the packet on. Both leave the same journal and fail alike; the list run has one side
effect when the list ends in such an action, which is then how the packet was resolved, and
none when the packet is dropped. -/
theorem applySet_refines_applyList (datapath : Datapath) (packet : Packet) :
    let actions := Action.upToDispatch packet.actionSet.toList
    let listed := datapath.applyList { packet with actionSet := .empty } actions
    let resolved := datapath.applySet packet
    resolved.journal = listed.journal ∧
    (∀ error, resolved.result = .error error ↔ listed.result = .error error) ∧
    ∀ last effects, listed.result = .ok (last, effects) →
      if actions.getLast?.any Action.dispatches then
        ∃ effect, effects = [effect] ∧ effect.packet = last ∧
          resolved.result = .ok (.effect effect)
      else effects = [] ∧ resolved.result = .ok (.drop last) := by
  intro actions listed resolved
  have loop : resolved = ⟨listed.journal, listed.result.map
      fun (last, effects) => .ofEffects last effects⟩ := resolve_eq_applyList
  rw [loop]
  refine ⟨rfl, fun error => ?_, fun last effects succeeded => ?_⟩
  · exact Run.map_eq_error_iff
  · simp only [succeeded, Except.map]
    -- Either nothing in the set hands the packet on, or the list ends in what does.
    rcases Action.upToDispatch_cases packet.actionSet.toList with
      quiet | ⟨before, action, cut, quiet, dispatching⟩
    · have undecided : actions.getLast?.any Action.dispatches = false := by
        cases ended : actions.getLast? with
        | none => rfl
        | some action => exact quiet action (List.mem_of_getLast? ended)
      obtain rfl := effects_eq_nil_of_quiet quiet succeeded
      rw [if_neg (by simp [undecided])]
      exact ⟨rfl, rfl⟩
    · have decided : actions.getLast?.any Action.dispatches = true := by
        simp [actions, cut, dispatching]
      have ended : (datapath.applyList { packet with actionSet := .empty }
          (before ++ [action])).result = .ok (last, effects) := by
        rw [← cut]
        exact succeeded
      obtain ⟨effect, rfl, held⟩ := effects_eq_singleton_of_dispatch quiet dispatching ended
      rw [if_pos decided]
      exact ⟨effect, rfl, held, rfl⟩

/-- The decrement comes first, then the group action, and the output action never. -/
theorem applySet_refines_applyList_written_backwards :
    let last := Sample.packet [Sample.ether, Sample.ipv4 0]
    let set := ActionSet.ofList [.output (.number 3), .group ⟨7⟩, .decNwTtl]
    let resolved := applySet {}
      { Sample.packet [Sample.ether, Sample.ipv4 1] with actionSet := set }
    resolved.journal = [.applied ⟨7⟩ last] ∧
    resolved.result = .ok (.effect (.group ⟨7⟩ last)) := by
  intro last set resolved
  obtain ⟨records, -, succeeds⟩ := applySet_refines_applyList {}
    { Sample.packet [Sample.ether, Sample.ipv4 1] with actionSet := set }
  obtain ⟨effect, single, -, returned⟩ := succeeds last [.group ⟨7⟩ last] rfl
  cases single
  exact ⟨records, returned⟩

end Datapath

end OpenFlow
