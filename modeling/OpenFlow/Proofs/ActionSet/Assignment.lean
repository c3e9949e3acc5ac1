import OpenFlow.Proofs.ActionSet.Refinement
import OpenFlow.Proofs.Header.Rewriting

/-!
# Assignments

Actions that overwrite a field, a time to live or the queue do not look at what they
overwrite. Two of them can be swapped unless they share a slot, and then the later one
makes the earlier one superfluous. So it does not matter whether they are applied one by
one or gathered in an action set, which keeps the last of each slot in the order of slots.
-/
namespace OpenFlow

namespace Action

/-- Actions that overwrite a part of the packet whatever it is, or do nothing. -/
def assigns : Action → Bool
  | .setField _ | .setMplsTtl _ | .setNwTtl _ | .setQueue _ | .experimenter _ => true
  | _ => false

/-- What an assignment changes in the headers. -/
def rewriting? : Action → Option Rewriting
  | .setField field => some field.rewriting
  | .setMplsTtl ttl => some (TtlHeader.mpls.rewriting ttl)
  | .setNwTtl ttl => some (TtlHeader.ipv4.rewriting ttl)
  | _ => none

/-- The queue that an assignment selects. -/
def queue? : Action → Option UInt32
  | .setQueue queue => some queue
  | _ => none

variable {first second action : Action}

theorem slot_of_queue? {queue : UInt32} (selects : action.queue? = some queue) :
    action.slot = .setQueue := by
  cases action <;> first | rfl | cases selects

/-- Assignments of different slots write different parts of a header. -/
theorem change_comm {early late : Rewriting} (rewrites : first.rewriting? = some early)
    (rewritesToo : second.rewriting? = some late) (distinct : first.slot ≠ second.slot)
    (same : early.kind = late.kind) (tag : HeaderTag) :
    late.change (early.change tag) = early.change (late.change tag) := by
  -- The two times to live belong to different headers; two of one header are in one slot.
  cases first <;> try cases rewrites
  case setField.refl field =>
    cases second <;> try cases rewritesToo
    case setField.refl other =>
      exact SetField.write_comm (fun kinds => distinct (congrArg ActionSlot.setField kinds)) tag
    case setMplsTtl.refl ttl | setNwTtl.refl ttl => exact (field.write_withTtl ttl tag).symm
  case setMplsTtl.refl ttl =>
    cases second <;> try cases rewritesToo
    case setField.refl other => exact other.write_withTtl ttl tag
    case setMplsTtl.refl => exact absurd rfl distinct
    case setNwTtl.refl => cases same
  case setNwTtl.refl ttl =>
    cases second <;> try cases rewritesToo
    case setField.refl other => exact other.write_withTtl ttl tag
    case setMplsTtl.refl => cases same
    case setNwTtl.refl => exact absurd rfl distinct

end Action

namespace Packet

/-- The packet after an assignment; other actions are taken to do nothing. -/
def assign (packet : Packet) (action : Action) : Packet :=
  { packet with
    headers := (action.rewriting?.map packet.headers.rewrite).getD packet.headers
    queue := action.queue?.or packet.queue }

variable {first second action : Action} {actions : List Action}

theorem assign_comm (distinct : first.slot ≠ second.slot) (packet : Packet) :
    (packet.assign first).assign second = (packet.assign second).assign first := by
  unfold assign
  congr 1
  · cases rewrites : first.rewriting? with
    | none => rfl
    | some early =>
      cases rewritesToo : second.rewriting? with
      | none => rfl
      | some late =>
        exact HeaderStack.rewrite_comm
          (Action.change_comm rewrites rewritesToo distinct) packet.headers
  · cases selects : first.queue? with
    | none => simp
    | some queue =>
      cases selectsToo : second.queue? with
      | none => simp
      | some other =>
        -- There is only one slot for the queue.
        have same := (Action.slot_of_queue? selects).trans (Action.slot_of_queue? selectsToo).symm
        exact absurd same distinct

/-- A later assignment to a slot overwrites all that the earlier one wrote. -/
theorem assign_assign (same : first.slot = second.slot) (packet : Packet) :
    (packet.assign first).assign second = packet.assign second := by
  cases first <;> cases second <;> try cases same
  case setField.setField early late =>
    have covered := HeaderStack.rewrite_field_twice (ActionSlot.setField.inj same) packet.headers
    exact congrArg (fun headers => { packet with headers }) covered
  case setMplsTtl.setMplsTtl.refl early late =>
    have covered := HeaderStack.rewrite_ttl_twice .mpls early late packet.headers
    exact congrArg (fun headers => { packet with headers }) covered
  case setNwTtl.setNwTtl.refl early late =>
    have covered := HeaderStack.rewrite_ttl_twice .ipv4 early late packet.headers
    exact congrArg (fun headers => { packet with headers }) covered
  all_goals rfl

/-- An assignment can be made after others that leave its slot alone. -/
theorem foldl_assign_comm (distinct : ∀ other ∈ actions, other.slot ≠ action.slot)
    (packet : Packet) :
    actions.foldl assign (packet.assign action) = (actions.foldl assign packet).assign action := by
  induction actions generalizing packet with
  | nil => rfl
  | cons head rest ih =>
    have swapped := assign_comm (distinct head List.mem_cons_self).symm packet
    rw [List.foldl_cons, List.foldl_cons, swapped]
    exact ih (fun other member => distinct other (List.mem_cons_of_mem head member)) _

/-- Placing an action among the sorted ones is making its assignment last. -/
theorem foldl_assign_place (sorted : actions.Pairwise fun a b => a.slot < b.slot)
    (action : Action) (packet : Packet) :
    (ActionSet.place action actions).foldl assign packet =
      (actions.foldl assign packet).assign action := by
  induction actions generalizing packet with
  | nil => rfl
  | cons head rest ih =>
    obtain ⟨before, sortedRest⟩ := List.pairwise_cons.mp sorted
    unfold ActionSet.place
    split
    next first =>
      refine foldl_assign_comm (fun other member => ?_) packet
      rcases List.mem_cons.mp member with rfl | inside
      · exact (ActionSlot.ne_of_lt first).symm
      · exact (ActionSlot.ne_of_lt (ActionSlot.lt_trans first (before other inside))).symm
    next notFirst =>
      split
      next same =>
        -- The head is gone from the set, and its assignment would have been overwritten.
        have distinct : ∀ other ∈ rest, other.slot ≠ action.slot := fun other member =>
          same ▸ (ActionSlot.ne_of_lt (before other member)).symm
        rw [List.foldl_cons, List.foldl_cons, ← foldl_assign_comm distinct,
          assign_assign same.symm]
      next distinct => exact ih sortedRest (packet.assign head)

theorem foldl_assign_insertAll (set : ActionSet) (actions : List Action) (packet : Packet) :
    (set.insertAll actions).toList.foldl assign packet =
      actions.foldl assign (set.toList.foldl assign packet) := by
  induction actions generalizing set with
  | nil => rfl
  | cons action rest ih =>
    have placed := foldl_assign_place set.sorted action packet
    exact (ih (set.insert action)).trans (congrArg (rest.foldl assign) placed)

end Packet

namespace Action

variable {action : Action}

theorem dispatches_of_assigns (assigned : action.assigns = true) : action.dispatches = false := by
  cases action <;> first | rfl | cases assigned

theorem transform_of_assigns (assigned : action.assigns = true) (defaults : VlanDefaults)
    (packet : Packet) : action.transform defaults packet = .ok (packet.assign action) := by
  cases action <;> try cases assigned
  case setField field =>
    have written : packet.headers.setField field = packet.headers.rewrite field.rewriting :=
      HeaderStack.setField_eq_editFirst packet.headers field
    rw [transform, Packet.mapHeaders, written]
    rfl
  all_goals rfl

end Action

namespace Datapath

variable {action : Action} {actions : List Action}

theorem eventsOf_of_assigns (assigned : action.assigns = true) (datapath : Datapath)
    (packet : Packet) : datapath.eventsOf packet action = [] := by
  cases action <;> first | rfl | cases assigned

/-- A list of assignments is run to its end and leaves no event. -/
theorem applyList_of_assigns (datapath : Datapath)
    (assigned : ∀ action ∈ actions, action.assigns = true) (packet : Packet) :
    datapath.applyList packet actions = ⟨[], .ok (actions.foldl Packet.assign packet, [])⟩ := by
  have steps : ∀ action ∈ actions, ∀ packet,
      datapath.applyAction action packet = pure (packet.assign action) := by
    intro action member packet
    rw [applyAction_of_ok (Action.transform_of_assigns (assigned action member) _ packet),
      eventsOf_of_assigns (assigned action member)]
    rfl
  have silent : ∀ action ∈ actions, ∀ packet, action.effects packet = [] := by
    intro action member packet
    exact Action.effects_of_quiet packet (Action.dispatches_of_assigns (assigned action member))
  simpa using applyList_map_of_pure id Packet.assign steps silent packet

/-- Assignments give the same packet whether they are applied as a list or written in turn into
the empty action set of a packet that is then resolved. Neither run leaves any event. -/
theorem applySet_eq_applyList_of_assigns (datapath : Datapath) (packet : Packet)
    (emptied : packet.actionSet = .empty) (actions : List Action)
    (assigned : ∀ action ∈ actions, action.assigns = true) :
    ∃ last, datapath.applyList packet actions = ⟨[], .ok (last, [])⟩ ∧
      datapath.applySet { packet with actionSet := packet.actionSet.insertAll actions } =
        ⟨[], .ok (.drop last)⟩ := by
  refine ⟨actions.foldl Packet.assign packet, datapath.applyList_of_assigns assigned packet, ?_⟩
  -- The set starts out empty, so all that it holds is from the list.
  have held : ∀ action ∈ (packet.actionSet.insertAll actions).toList, action.assigns = true := by
    intro action member
    rcases ActionSet.mem_of_mem_insertAll member with old | new
    · rw [emptied] at old
      cases old
    · exact assigned action new
  have quiet : ∀ action ∈ (packet.actionSet.insertAll actions).toList,
      action.dispatches = false := fun action member =>
    Action.dispatches_of_assigns (held action member)
  have start : { packet with actionSet := .empty } = packet := by rw [← emptied]
  rw [applySet, resolve_eq_applyList, Action.upToDispatch_of_quiet quiet,
    datapath.applyList_of_assigns held, Packet.foldl_assign_insertAll, emptied, start]
  rfl

/-- Two slots are written twice, and the set applies the actions in another order. -/
theorem applySet_eq_applyList_of_assigns_written_twice :
    let packet := Sample.packet [Sample.ether, Sample.vlan 5 1, Sample.ipv4 9]
    let actions := [.setField (.vlanVid 7), .setQueue 1, .setNwTtl 3, .experimenter 4,
      .setField (.vlanVid 0xFFFF), .setField (.ipProto 6), .setNwTtl 8, .setField (.vlanPcp 2)]
    let header := { dscp := 0, ecn := 0, proto := 6, src := Sample.guestAddr,
                    dst := Sample.remoteAddr, ttl := 8 }
    let last := { Sample.packet [Sample.ether, Sample.vlan 0x0FFF 2, .ipv4 header] with
      queue := some 1 }
    applyList {} packet actions = ⟨[], .ok (last, [])⟩ ∧
    applySet {} { packet with actionSet := packet.actionSet.insertAll actions } =
      ⟨[], .ok (.drop last)⟩ := by
  intro packet actions header last
  have listed : applyList {} packet actions = ⟨[], .ok (last, [])⟩ := rfl
  obtain ⟨final, alsoListed, resolved⟩ :=
    applySet_eq_applyList_of_assigns {} packet rfl actions (by decide)
  cases listed.symm.trans alsoListed
  exact ⟨listed, resolved⟩

end Datapath

end OpenFlow
