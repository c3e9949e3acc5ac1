import OpenFlow.Proofs.ActionList.Exhaustion
import OpenFlow.Proofs.ActionSet.Assignment

/-!
# What is carried along

Apart from its headers, an action changes nothing of a packet but its queue. So the port it
came in by, its payload, the reason it has and its action set are those of the packet that
the run started from, wherever the packet is shown, and its queue is the one that was set
last by then. Only the copy for the controller is marked, never the packet itself. An action
set is resolved like the list of its actions, with the set emptied first.
-/
namespace OpenFlow

/-- The queue that the actions set last, or the one there is when they set none. -/
def Action.lastQueue (initial : Option UInt32) (actions : List Action) : Option UInt32 :=
  (actions.filterMap Action.queue?).getLast?.or initial

theorem Action.lastQueue_cons (initial : Option UInt32) (action : Action) (rest : List Action) :
    lastQueue initial (action :: rest) = lastQueue (action.queue?.or initial) rest := by
  cases selects : action.queue? with
  | none => simp [lastQueue, selects]
  | some queue =>
    simp only [lastQueue, List.filterMap_cons_some selects, List.getLast?_cons]
    cases (rest.filterMap Action.queue?).getLast? <;> rfl

namespace Packet

def withoutHeaders (packet : Packet) : Packet := { packet with headers := .empty }

/-- The packet after the actions, without its headers. -/
def carriedPast (packet : Packet) (actions : List Action) : Packet :=
  { packet.withoutHeaders with queue := Action.lastQueue packet.queue actions }

/-- The side effects of the actions, each with the packet past the actions before it, without its
headers. -/
def carriedOut (packet : Packet) (actions : List Action) : List SideEffect :=
  (actions.mapIdx fun index action =>
    action.effects (packet.carriedPast (actions.take index))).flatten

variable {packet next : Packet} {action : Action} {rest : List Action}

theorem carriedPast_nil (packet : Packet) : packet.carriedPast [] = packet.withoutHeaders := rfl

theorem carriedPast_cons (same : next.withoutHeaders = packet.carriedPast [action]) :
    packet.carriedPast (action :: rest) = next.carriedPast rest := by
  have queue : next.queue = Action.lastQueue packet.queue [action] := congrArg Packet.queue same
  rw [carriedPast, carriedPast, same, Action.lastQueue_cons, queue, Action.lastQueue_cons]
  rfl

theorem carriedOut_cons (same : next.withoutHeaders = packet.carriedPast [action]) :
    packet.carriedOut (action :: rest) =
      action.effects packet.withoutHeaders ++ next.carriedOut rest := by
  simp only [carriedOut, List.mapIdx_cons, List.take_succ_cons, List.flatten_cons,
    List.take_zero, carriedPast_nil, carriedPast_cons same]

/-- Of a list that is cut off where the packet is handed on, the first side effect is left. -/
theorem carriedOut_upToDispatch (packet : Packet) (actions : List Action) :
    packet.carriedOut (Action.upToDispatch actions) = (packet.carriedOut actions).take 1 := by
  induction actions generalizing packet with
  | nil => rfl
  | cons action rest ih =>
    have step (rest : List Action) :
        packet.carriedOut (action :: rest) =
          action.effects packet.withoutHeaders ++ (packet.carriedPast [action]).carriedOut rest :=
      carriedOut_cons rfl
    rw [Action.upToDispatch, step]
    cases dispatching : action.dispatches with
    | true =>
      obtain ⟨effect, single, -, -⟩ :=
        Action.exists_effects_eq_singleton packet.withoutHeaders dispatching
      rw [if_pos rfl, step, single]
      rfl
    | false =>
      rw [if_neg Bool.false_ne_true, step, Action.effects_of_quiet _ dispatching]
      exact ih (packet.carriedPast [action])

theorem carriedOut_of_quiet {actions : List Action}
    (quiet : ∀ action ∈ actions, action.dispatches = false) : packet.carriedOut actions = [] := by
  apply List.flatten_eq_nil_iff.mpr
  intro effects member
  obtain ⟨index, inside, rfl⟩ := List.mem_mapIdx.mp member
  exact Action.effects_of_quiet _ (quiet actions[index] (List.getElem_mem inside))

end Packet

namespace Action

variable {defaults : VlanDefaults} {packet next : Packet} {action : Action}

theorem carriedPast_of_transform (moved : action.transform defaults packet = .ok next) :
    next.withoutHeaders = packet.carriedPast [action] := by
  have decremented (header : TtlHeader) (moved : packet.decTtl header = .ok next) :
      next.withoutHeaders = packet.withoutHeaders := by
    obtain ⟨headers, -, rfl⟩ := Run.map_eq_ok_iff.mp moved
    rfl
  cases action with
  | decMplsTtl => exact decremented .mpls moved
  | decNwTtl => exact decremented .ipv4 moved
  | _ => cases moved; rfl

end Action

namespace SideEffect

def withoutHeaders : SideEffect → SideEffect
  | .output port packet => .output port packet.withoutHeaders
  | .group id packet => .group id packet.withoutHeaders

variable {packet : Packet} {effects : List SideEffect}

theorem map_withoutHeaders_effects (packet : Packet) (action : Action) :
    (action.effects packet).map withoutHeaders = action.effects packet.withoutHeaders := by
  cases action <;> rfl

/-- The packets with the ports they were handed to. -/
theorem filterMap_output?_withoutHeaders (effects : List SideEffect) :
    (effects.map withoutHeaders).filterMap output? =
      (effects.filterMap output?).map fun handed => (handed.1, handed.2.withoutHeaders) := by
  rw [List.filterMap_map, List.map_filterMap]
  congr 1
  funext effect
  cases effect <;> rfl

theorem filterMap_group?_withoutHeaders (effects : List SideEffect) :
    (effects.map withoutHeaders).filterMap group? =
      (effects.filterMap group?).map fun handed => (handed.1, handed.2.withoutHeaders) := by
  rw [List.filterMap_map, List.map_filterMap]
  congr 1
  funext effect
  cases effect <;> rfl

end SideEffect

namespace Resolution

variable {packet last : Packet} {effects : List SideEffect} {effect : SideEffect}

theorem ofEffects_eq_drop_iff :
    ofEffects packet effects = .drop last ↔ packet = last ∧ effects = [] := by
  cases ended : effects.getLast? with
  | none => simp_all [ofEffects]
  | some final =>
    have present : effects ≠ [] := by
      rintro rfl
      cases ended
    simp [ofEffects, ended, present]

theorem ofEffects_eq_effect_iff :
    ofEffects packet effects = .effect effect ↔ effects.getLast? = some effect := by
  cases ended : effects.getLast? <;> simp [ofEffects, ended]

end Resolution

namespace Journal

/-- Every packet handed to a port, without its headers. -/
def strippedAttempts (journal : Journal) : List (PortNo × Packet) :=
  journal.attempts.map fun handed => (handed.1, handed.2.withoutHeaders)

/-- Every packet handed to a group, without its headers. -/
def strippedGroups (journal : Journal) : List (GroupId × Packet) :=
  journal.groups.map fun handed => (handed.1, handed.2.withoutHeaders)

end Journal

namespace Datapath

variable {datapath : Datapath} {packet last : Packet} {actions : List Action}
variable {effects : List SideEffect}

theorem carriedPast_of_applyList
    (succeeded : (datapath.applyList packet actions).result = .ok (last, effects)) :
    last.withoutHeaders = packet.carriedPast actions := by
  induction actions generalizing packet effects with
  | nil =>
    cases succeeded
    rfl
  | cons action rest ih =>
    obtain ⟨next, late, moved, returned, -, -⟩ := applyList_cons_cases succeeded
    rw [ih returned, Packet.carriedPast_cons (Action.carriedPast_of_transform moved)]

theorem carriedOut_of_applyList
    (succeeded : (datapath.applyList packet actions).result = .ok (last, effects)) :
    effects.map SideEffect.withoutHeaders = packet.carriedOut actions := by
  induction actions generalizing packet effects with
  | nil =>
    cases succeeded
    rfl
  | cons action rest ih =>
    obtain ⟨next, late, moved, returned, rfl, -⟩ := applyList_cons_cases succeeded
    rw [Packet.carriedOut_cons (Action.carriedPast_of_transform moved), List.map_append,
      SideEffect.map_withoutHeaders_effects, ih returned]

theorem strippedAttempts_of_applyList
    (succeeded : (datapath.applyList packet actions).result = .ok (last, effects)) :
    (datapath.applyList packet actions).journal.strippedAttempts =
      (packet.carriedOut actions).filterMap SideEffect.output? := by
  rw [Journal.strippedAttempts, (accords_applyList succeeded).attempts,
    ← SideEffect.filterMap_output?_withoutHeaders, carriedOut_of_applyList succeeded]

theorem strippedGroups_of_applyList
    (succeeded : (datapath.applyList packet actions).result = .ok (last, effects)) :
    (datapath.applyList packet actions).journal.strippedGroups =
      (packet.carriedOut actions).filterMap SideEffect.group? := by
  rw [Journal.strippedGroups, (accords_applyList succeeded).groups,
    ← SideEffect.filterMap_group?_withoutHeaders, carriedOut_of_applyList succeeded]

/-- Up to the point of failure a run hands on what any other does, and then the marked copy. -/
theorem ExhaustedAt.strippedAttempts {header : TtlHeader} {before after : List Action}
    {reached : Packet} (point : datapath.ExhaustedAt packet actions header before after reached) :
    (datapath.applyList packet actions).journal.strippedAttempts =
      (packet.carriedOut before).filterMap SideEffect.output? ++ [(datapath.config.controller,
        { packet.carriedPast before with packetInReason := some .invalidTtl })] := by
  obtain ⟨effects, reaches⟩ := point.reaches
  rw [Journal.strippedAttempts, point.attempts_eq, List.map_append,
    ← carriedPast_of_applyList reaches, ← strippedAttempts_of_applyList reaches]
  rfl

theorem ExhaustedAt.strippedGroups {header : TtlHeader} {before after : List Action}
    {reached : Packet} (point : datapath.ExhaustedAt packet actions header before after reached) :
    (datapath.applyList packet actions).journal.strippedGroups =
      (packet.carriedOut before).filterMap SideEffect.group? := by
  obtain ⟨effects, reaches⟩ := point.reaches
  rw [point.applyList_eq, Journal.strippedGroups, Journal.groups_append, groups_redirect,
    List.append_nil, ← strippedGroups_of_applyList reaches]
  rfl

/-! ### Lists and sets -/

/-- What a run over a list shows of the packet, apart from its headers. -/
structure CarriesPast (datapath : Datapath) (packet : Packet) (actions : List Action)
    (run : Run (Packet × List SideEffect)) : Prop where
  returned : ∀ last effects, run.result = .ok (last, effects) →
    last.withoutHeaders = packet.carriedPast actions ∧
    effects.map SideEffect.withoutHeaders = packet.carriedOut actions ∧
    run.journal.strippedAttempts = (packet.carriedOut actions).filterMap SideEffect.output? ∧
    run.journal.strippedGroups = (packet.carriedOut actions).filterMap SideEffect.group?
  redirected : ∀ header, run.result = .error (.invalidTtl header) →
    ∃ before after reached, datapath.ExhaustedAt packet actions header before after reached ∧
      run.journal.strippedAttempts = (packet.carriedOut before).filterMap SideEffect.output? ++
        [(datapath.config.controller,
          { packet.carriedPast before with packetInReason := some .invalidTtl })] ∧
      run.journal.strippedGroups = (packet.carriedOut before).filterMap SideEffect.group?

/-- What a resolution shows of a packet with these actions in its set, which was emptied before,
apart from its headers. -/
structure CarriesOut (datapath : Datapath) (packet : Packet) (actions : List Action)
    (run : Run Resolution) : Prop where
  dropped : ∀ last, run.result = .ok (.drop last) →
    last.withoutHeaders = packet.carriedPast actions ∧
    run.journal.strippedAttempts = [] ∧ run.journal.strippedGroups = []
  handedOn : ∀ effect, run.result = .ok (.effect effect) →
    (packet.carriedOut actions).head? = some effect.withoutHeaders ∧
    run.journal.strippedAttempts = [effect.withoutHeaders].filterMap SideEffect.output? ∧
    run.journal.strippedGroups = [effect.withoutHeaders].filterMap SideEffect.group?
  redirected : ∀ header, run.result = .error (.invalidTtl header) →
    ∃ before after, actions = before ++ header.decrement :: after ∧
      run.journal.strippedAttempts = [(datapath.config.controller,
        { packet.carriedPast before with packetInReason := some .invalidTtl })] ∧
      run.journal.strippedGroups = []

theorem carriesPast_applyList (datapath : Datapath) (packet : Packet) (actions : List Action) :
    datapath.CarriesPast packet actions (datapath.applyList packet actions) where
  returned last effects succeeded :=
    ⟨carriedPast_of_applyList succeeded, carriedOut_of_applyList succeeded,
      strippedAttempts_of_applyList succeeded, strippedGroups_of_applyList succeeded⟩
  redirected header failed := by
    obtain ⟨header', before, after, reached, named, point⟩ := exists_exhaustedAt failed
    cases named
    exact ⟨before, after, reached, point, point.strippedAttempts, point.strippedGroups⟩

/-- A run that hands nothing on got to the end of the actions, without a cut. -/
theorem upToDispatch_of_applyList
    (succeeded : (datapath.applyList packet (Action.upToDispatch actions)).result =
      .ok (last, [])) :
    Action.upToDispatch actions = actions := by
  have silent := map_action_of_applyList succeeded
  rw [Action.filter_upToDispatch, List.map_nil, eq_comm, Option.toList_eq_nil_iff,
    List.find?_eq_none] at silent
  exact Action.upToDispatch_of_quiet (by simpa using silent)

/-- A list that is cut off at its first side effect has no other. -/
theorem carriedOut_eq_of_getLast? {effect : SideEffect}
    (out : effects.map SideEffect.withoutHeaders =
      packet.carriedOut (Action.upToDispatch actions))
    (ended : effects.getLast? = some effect) :
    packet.carriedOut (Action.upToDispatch actions) = [effect.withoutHeaders] ∧
    (packet.carriedOut actions).head? = some effect.withoutHeaders := by
  rw [Packet.carriedOut_upToDispatch] at out ⊢
  cases carried : packet.carriedOut actions with
  | nil => simp_all
  | cons head others =>
    obtain ⟨single, rfl, rfl⟩ : ∃ single, effects = [single] ∧ single.withoutHeaders = head := by
      simpa [carried, List.map_eq_singleton_iff] using out
    cases ended
    exact ⟨rfl, rfl⟩

theorem carriesOut_resolve (datapath : Datapath) (packet : Packet) (actions : List Action) :
    datapath.CarriesOut packet actions (datapath.resolve packet actions) := by
  have listed := datapath.carriesPast_applyList packet (Action.upToDispatch actions)
  rw [resolve_eq_applyList]
  constructor
  · intro last succeeded
    obtain ⟨⟨final, effects⟩, returned, same⟩ := Run.map_eq_ok_iff.mp succeeded
    obtain ⟨rfl, rfl⟩ := Resolution.ofEffects_eq_drop_iff.mp same
    obtain ⟨past, out, attempts, groups⟩ := listed.returned final [] returned
    rw [← out] at attempts groups
    rw [upToDispatch_of_applyList returned] at past
    exact ⟨past, attempts, groups⟩
  · intro effect succeeded
    obtain ⟨⟨final, effects⟩, returned, same⟩ := Run.map_eq_ok_iff.mp succeeded
    obtain ⟨-, out, attempts, groups⟩ := listed.returned final effects returned
    have ended := Resolution.ofEffects_eq_effect_iff.mp same
    obtain ⟨single, first⟩ := carriedOut_eq_of_getLast? out ended
    rw [single] at attempts groups
    exact ⟨first, attempts, groups⟩
  · intro header failed
    obtain ⟨before, after, reached, point, attempts, groups⟩ :=
      listed.redirected header (Run.map_eq_error_iff.mp failed)
    obtain ⟨later, whole⟩ := Action.upToDispatch_prefix actions
    -- What comes before another action of the part that is kept hands nothing on.
    rw [Packet.carriedOut_of_quiet (Action.quiet_of_upToDispatch_eq_append point.split)]
      at attempts groups
    rw [point.split, List.append_assoc, List.cons_append] at whole
    exact ⟨before, after ++ later, whole.symm, attempts, groups⟩

/-- Apart from its headers and its queue, a packet is the same wherever a run shows it, and its
queue is the one set last by then; only the copy for the controller has another reason. An action
set does the same as its actions in their order, from the packet with the set emptied. -/
theorem only_headers_and_queue_change (datapath : Datapath) (packet : Packet)
    (actions : List Action) :
    datapath.CarriesPast packet actions (datapath.applyList packet actions) ∧
    datapath.CarriesOut { packet with actionSet := .empty } packet.actionSet.toList
      (datapath.applySet packet) :=
  ⟨datapath.carriesPast_applyList packet actions,
    datapath.carriesOut_resolve _ packet.actionSet.toList⟩

/-- The packet is shown three times, with the queue it came with and then with those set, and only
the last copy is marked. The output action of its set is reached past the queue of the set. -/
theorem only_headers_and_queue_change_marked_copy :
    let datapath : Datapath := {}
    let packet := { Sample.packet [Sample.ether, Sample.ipv4 0] with
      queue := some 1, packetInReason := some .action
      actionSet := .ofList [.output (.number 4), .setQueue 9] }
    let actions := [.output (.number 2), .setQueue 5, .pushVlan EtherType.vlan, .output (.number 3),
      .setQueue 6, .decNwTtl, .setQueue 7]
    let carried := packet.withoutHeaders
    (datapath.applyList packet actions).result = .error (.invalidTtl .ipv4) ∧
    (datapath.applyList packet actions).journal.strippedAttempts =
      [(.number 2, carried), (.number 3, { carried with queue := some 5 }),
        (.controller, { carried with queue := some 6, packetInReason := some .invalidTtl })] ∧
    (datapath.applySet packet).journal.strippedAttempts =
      [(.number 4, { carried with queue := some 9, actionSet := .empty })] := by
  intro datapath packet actions carried
  obtain ⟨listed, resolved⟩ := only_headers_and_queue_change datapath packet actions
  have failed : (datapath.applyList packet actions).result = .error (.invalidTtl .ipv4) := rfl
  obtain ⟨before, after, reached, point, attempts, -⟩ := listed.redirected .ipv4 failed
  have known : datapath.ExhaustedAt packet actions .ipv4
      [.output (.number 2), .setQueue 5, .pushVlan EtherType.vlan, .output (.number 3), .setQueue 6]
      [.setQueue 7] _ := ⟨rfl, ⟨_, rfl⟩, rfl⟩
  obtain ⟨-, rfl, -, -⟩ := known.unique point
  obtain ⟨-, handed, -⟩ := resolved.handedOn _ rfl
  exact ⟨failed, attempts, handed⟩

end Datapath

end OpenFlow
