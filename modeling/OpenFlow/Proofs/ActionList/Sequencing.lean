import OpenFlow.Engine.ActionList
import OpenFlow.Sample

/-!
# Sequencing of action lists

One action either moves on to the next packet or fails, and a failure is always
a decrement that met a time to live of zero. A run over `first ++ second` is the
run over `first`, followed by the run over `second` from the packet it reached;
its journal and its side effects are those of the two runs, one after the other.
-/
namespace OpenFlow

/-- The action that decrements the time to live of a header. -/
def TtlHeader.decrement : TtlHeader → Action
  | .mpls => .decMplsTtl
  | .ipv4 => .decNwTtl

theorem TtlHeader.decrement_injective {header other : TtlHeader}
    (same : header.decrement = other.decrement) : header = other := by
  cases header <;> cases other <;> first | rfl | cases same

namespace Action

variable {defaults : VlanDefaults} {packet next : Packet} {action : Action}

theorem transform_eq_error_iff {error : ActionError} :
    action.transform defaults packet = .error error ↔
      ∃ header, action = header.decrement ∧ error = .invalidTtl header ∧
        packet.headers.ttl? header = some 0 := by
  have decremented (header : TtlHeader) : packet.decTtl header = .error error ↔
      error = .invalidTtl header ∧ packet.headers.ttl? header = some 0 := by
    rw [← HeaderStack.decTtl_eq_error_iff, Packet.decTtl, Run.map_eq_error_iff]
  constructor
  · intro failed
    -- All but the two decrements return a packet whatever the headers are.
    cases action <;> try cases failed
    case decMplsTtl => exact ⟨.mpls, rfl, (decremented .mpls).mp failed⟩
    case decNwTtl => exact ⟨.ipv4, rfl, (decremented .ipv4).mp failed⟩
  · rintro ⟨header, rfl, exhausted⟩
    cases header
    · exact (decremented .mpls).mpr exhausted
    · exact (decremented .ipv4).mpr exhausted

theorem transform_decrement_of_exhausted {header : TtlHeader}
    (exhausted : packet.headers.ttl? header = some 0) :
    header.decrement.transform defaults packet = .error (.invalidTtl header) :=
  transform_eq_error_iff.mpr ⟨header, rfl, rfl, exhausted⟩

/-- Actions change nothing of a packet but its headers and its queue. -/
theorem transform_frame (moved : action.transform defaults packet = .ok next) :
    next = { packet with headers := next.headers, queue := next.queue } := by
  have decremented (header : TtlHeader) (moved : packet.decTtl header = .ok next) :
      next = { packet with headers := next.headers, queue := next.queue } := by
    obtain ⟨headers, -, rfl⟩ := Run.map_eq_ok_iff.mp moved
    rfl
  cases action
  case decMplsTtl => exact decremented .mpls moved
  case decNwTtl => exact decremented .ipv4 moved
  all_goals cases moved; rfl

theorem packet_of_mem_effects {effect : SideEffect} (member : effect ∈ action.effects packet) :
    effect.packet = packet := by
  cases action <;> simp only [effects, List.mem_singleton, List.not_mem_nil] at member <;>
    rw [member] <;> rfl

end Action

namespace Datapath

variable {datapath : Datapath} {packet next middle last : Packet} {action : Action}
variable {first second rest : List Action} {early effects : List SideEffect} {error : ActionError}

theorem applyAction_of_ok
    (moved : action.transform datapath.config.vlanDefaults packet = .ok next) :
    datapath.applyAction action packet = ⟨datapath.eventsOf packet action, .ok next⟩ := by
  simp only [applyAction, moved]

theorem applyAction_of_error
    (failed : action.transform datapath.config.vlanDefaults packet = .error error) :
    datapath.applyAction action packet = ⟨datapath.redirect error packet, .error error⟩ := by
  simp only [applyAction, failed]

theorem applyList_cons_of_ok
    (moved : action.transform datapath.config.vlanDefaults packet = .ok next) :
    datapath.applyList packet (action :: rest) =
      ⟨datapath.eventsOf packet action ++ (datapath.applyList next rest).journal,
        (datapath.applyList next rest).result.map fun (last, late) =>
          (last, action.effects packet ++ late)⟩ := by
  rw [applyList, applyAction_of_ok moved, Run.bind_ok, Run.bind_pure_eq]

theorem applyList_cons_of_error
    (failed : action.transform datapath.config.vlanDefaults packet = .error error) :
    datapath.applyList packet (action :: rest) =
      ⟨datapath.redirect error packet, .error error⟩ := by
  rw [applyList, applyAction_of_error failed, Run.bind_error]

/-- A successful run over a list is its first action followed by a successful run over the rest. -/
theorem applyList_cons_cases
    (succeeded : (datapath.applyList packet (action :: rest)).result = .ok (last, effects)) :
    ∃ next late, action.transform datapath.config.vlanDefaults packet = .ok next ∧
      (datapath.applyList next rest).result = .ok (last, late) ∧
      effects = action.effects packet ++ late ∧
      (datapath.applyList packet (action :: rest)).journal =
        datapath.eventsOf packet action ++ (datapath.applyList next rest).journal := by
  cases moved : action.transform datapath.config.vlanDefaults packet with
  | error error => simp [applyList_cons_of_error moved] at succeeded
  | ok next =>
    rw [applyList_cons_of_ok moved] at succeeded ⊢
    obtain ⟨⟨final, late⟩, returned, same⟩ := Run.map_eq_ok_iff.mp succeeded
    cases same
    -- The side effects of the action stand before those of the rest, so the split is read off.
    exact ⟨next, late, rfl, returned, rfl, rfl⟩

/-- Running a list and then another from where the first ended is running both at once. -/
theorem applyList_append :
    datapath.applyList packet (first ++ second) = (do
      let (middle, early) ← datapath.applyList packet first
      let (last, late) ← datapath.applyList middle second
      pure (last, early ++ late)) := by
  induction first generalizing packet with
  | nil => simp [applyList]
  | cons action rest ih => simp [applyList, ih, List.append_assoc]

theorem applyList_append_of_ok
    (reached : (datapath.applyList packet first).result = .ok (middle, early)) :
    datapath.applyList packet (first ++ second) =
      ⟨(datapath.applyList packet first).journal ++ (datapath.applyList middle second).journal,
        (datapath.applyList middle second).result.map fun (last, late) =>
          (last, early ++ late)⟩ := by
  rw [applyList_append, Run.bind_of_ok reached]
  -- The first run ended in a known pair; only after taking it apart is the rest a plain map.
  dsimp only
  rw [Run.bind_pure_eq]

theorem applyList_append_of_error
    (failed : (datapath.applyList packet first).result = .error error) :
    datapath.applyList packet (first ++ second) = datapath.applyList packet first := by
  rw [applyList_append, Run.bind_of_error failed, ← failed]

/-- A successful run over two lists is a successful run over each. -/
theorem applyList_append_cases
    (succeeded : (datapath.applyList packet (first ++ second)).result = .ok (last, effects)) :
    ∃ middle early late, (datapath.applyList packet first).result = .ok (middle, early) ∧
      (datapath.applyList middle second).result = .ok (last, late) ∧ effects = early ++ late := by
  cases reached : (datapath.applyList packet first).result with
  | error error =>
    -- A failure in the first list would be the failure of the whole run.
    rw [applyList_append_of_error reached, reached] at succeeded
    cases succeeded
  | ok value =>
    obtain ⟨middle, early⟩ := value
    rw [applyList_append_of_ok reached] at succeeded
    obtain ⟨⟨final, late⟩, returned, same⟩ := Run.map_eq_ok_iff.mp succeeded
    cases same
    exact ⟨middle, early, late, rfl, returned, rfl⟩

/-- Actions that do nothing but change the packet are run to their end and leave no event. -/
theorem applyList_map_of_pure {α : Type} {values : List α} (action : α → Action)
    (step : Packet → α → Packet)
    (steps : ∀ value ∈ values, ∀ packet,
      datapath.applyAction (action value) packet = pure (step packet value))
    (silent : ∀ value ∈ values, ∀ packet, (action value).effects packet = []) (packet : Packet) :
    datapath.applyList packet (values.map action) =
      ⟨[], .ok (values.foldl step packet, [])⟩ := by
  induction values generalizing packet with
  | nil => rfl
  | cons value rest ih =>
    obtain ⟨here, later⟩ := List.forall_mem_cons.mp steps
    obtain ⟨silentHere, silentLater⟩ := List.forall_mem_cons.mp silent
    rw [List.map_cons, applyList, here, pure_bind, ih later silentLater, silentHere]
    rfl

/-- What every action keeps holds of the last packet and of every packet handed on. -/
theorem applyList_keeps (holds : Packet → Prop)
    (kept : ∀ (action : Action) (packet next : Packet), holds packet →
      action.transform datapath.config.vlanDefaults packet = .ok next → holds next)
    (initial : holds packet) {actions : List Action}
    (succeeded : (datapath.applyList packet actions).result = .ok (last, effects)) :
    holds last ∧ ∀ effect ∈ effects, holds effect.packet := by
  -- The invariant holds of the packet the rest of the list starts from.
  induction actions generalizing packet effects with
  | nil =>
    cases succeeded
    exact ⟨initial, by simp⟩
  | cons action rest ih =>
    obtain ⟨next, late, moved, returned, rfl, -⟩ := applyList_cons_cases succeeded
    obtain ⟨final, later⟩ := ih (kept action packet next initial moved) returned
    refine ⟨final, fun effect member => ?_⟩
    rcases List.mem_append.mp member with own | after
    · -- A snapshot is the packet before the action, not the one after it.
      rw [Action.packet_of_mem_effects own]
      exact initial
    · exact later effect after

/-- A list may be cut anywhere. If the run over its first part succeeds, the whole run fails or
succeeds as the run over the second part does from where the first ended, and shows what the
first shows followed by what the second shows. If the first part fails, that is the whole run. -/
theorem applyList_cut (datapath : Datapath) (packet : Packet) (first second : List Action) :
    let whole := datapath.applyList packet (first ++ second)
    let early := datapath.applyList packet first
    (∀ middle effects, early.result = .ok (middle, effects) →
      let late := datapath.applyList middle second
      (∀ error, whole.result = .error error ↔ late.result = .error error) ∧
      (∀ last others,
        whole.result = .ok (last, effects ++ others) ↔ late.result = .ok (last, others)) ∧
      whole.journal = early.journal ++ late.journal ∧
      whole.journal.sends = early.journal.sends ++ late.journal.sends ∧
      whole.journal.groups = early.journal.groups ++ late.journal.groups ∧
      whole.journal.log = early.journal.log ++ late.journal.log) ∧
    (∀ error, early.result = .error error →
      whole.result = .error error ∧ whole.journal = early.journal) := by
  intro whole early
  refine ⟨fun middle effects reached => ?_, fun error failed => ?_⟩
  · intro late
    have joined : whole = ⟨early.journal ++ late.journal,
        late.result.map fun (last, others) => (last, effects ++ others)⟩ :=
      applyList_append_of_ok reached
    have journal : whole.journal = early.journal ++ late.journal := congrArg Run.journal joined
    refine ⟨fun error => ?_, fun last others => ?_, journal, ?_, ?_, ?_⟩
    · rw [joined]
      exact Run.map_eq_error_iff
    · rw [joined, Run.map_eq_ok_iff]
      constructor
      · -- The side effects of the second part are what is left without those of the first.
        rintro ⟨⟨final, after⟩, returned, same⟩
        obtain ⟨rfl, joinedEffects⟩ := Prod.mk.inj same
        rwa [← List.append_cancel_left joinedEffects]
      · intro returned
        exact ⟨(last, others), returned, rfl⟩
    · rw [journal, Journal.sends_append]
    · rw [journal, Journal.groups_append]
    · rw [journal, Journal.log_append]
  · have stopped : whole = early := applyList_append_of_error failed
    exact ⟨stopped ▸ failed, congrArg Run.journal stopped⟩

/-- The first part sends the packet and uses up its time to live, so the second part fails at its
decrement, after it has applied a group; a third part would not be reached. -/
theorem applyList_cut_exhausted_later :
    let datapath : Datapath := { badPorts := [.controller] }
    let packet := Sample.packet [Sample.ether, Sample.ipv4 1]
    let middle := Sample.packet [Sample.ether, Sample.ipv4 0]
    let first := [.output (.number 3), .decNwTtl]
    let second := [.group ⟨7⟩, .decNwTtl]
    let third := [.output (.number 4)]
    let whole := datapath.applyList packet ((first ++ second) ++ third)
    (datapath.applyList packet first).result = .ok (middle, [.output (.number 3) packet]) ∧
    whole.result = .error (.invalidTtl .ipv4) ∧
    whole.journal.sends = [(.number 3, packet)] ∧
    whole.journal.groups = [(⟨7⟩, middle)] ∧
    whole.journal.log =
      [(.note, "InvalidTtl/Ipv4: packet from port 1 sent to controller"),
        (.warn, "output to controller: no such port: controller")] := by
  intro datapath packet middle first second third whole
  have reached : (datapath.applyList packet first).result =
      .ok (middle, [.output (.number 3) packet]) := rfl
  obtain ⟨cut, -⟩ := applyList_cut datapath packet first second
  obtain ⟨fails, -, -, sends, groups, log⟩ := cut middle _ reached
  have failed := (fails (.invalidTtl .ipv4)).mpr rfl
  obtain ⟨-, unreached⟩ := applyList_cut datapath packet (first ++ second) third
  obtain ⟨result, journal⟩ := unreached _ failed
  refine ⟨reached, result, ?_, ?_, ?_⟩
  · rw [journal, sends]
    rfl
  · rw [journal, groups]
    rfl
  · rw [journal, log]
    rfl

end Datapath

end OpenFlow
