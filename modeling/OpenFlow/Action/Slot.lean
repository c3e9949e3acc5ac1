import OpenFlow.Action.Basic

/-!
# Action slots

An action set holds at most one action per slot, and its actions are applied in
the order of their slots. Each settable field and each experimenter has a slot
of its own; every other kind of action has one slot.
-/
namespace OpenFlow

inductive ActionSlot where
  | copyTtlIn
  | popVlan
  | popMpls
  | pushMpls
  | pushVlan
  | copyTtlOut
  | decMplsTtl
  | decNwTtl
  | setMplsTtl
  | setNwTtl
  | setField (kind : FieldKind)
  | setQueue
  | experimenter (id : UInt32)
  | group
  | output
deriving DecidableEq, Repr

namespace ActionSlot

def stage : ActionSlot → Nat
  | .copyTtlIn => 0
  | .popVlan => 1
  | .popMpls => 2
  | .pushMpls => 3
  | .pushVlan => 4
  | .copyTtlOut => 5
  | .decMplsTtl => 6
  | .decNwTtl => 7
  | .setMplsTtl => 8
  | .setNwTtl => 9
  | .setField _ => 10
  | .setQueue => 11
  | .experimenter _ => 12
  | .group => 13
  | .output => 14

/-- The place of a slot among those of its stage. -/
def detail : ActionSlot → Nat
  | .setField kind => kind.rank
  | .experimenter id => id.toNat
  | _ => 0

def rank (slot : ActionSlot) : Nat := slot.stage * UInt32.size + slot.detail

theorem detail_lt (slot : ActionSlot) : slot.detail < UInt32.size := by
  cases slot with
  | setField kind => cases kind <;> decide
  | experimenter id => exact id.toNat_lt
  | _ => decide

theorem eq_of_stage_of_detail {s t : ActionSlot} (stages : s.stage = t.stage)
    (details : s.detail = t.detail) : s = t := by
  cases s <;> cases t <;> simp_all [stage, detail]
  · exact FieldKind.rank_injective details
  · exact UInt32.toNat_inj.mp details

theorem rank_injective {s t : ActionSlot} (same : s.rank = t.rank) : s = t := by
  have boundS : s.detail < 4294967296 := s.detail_lt
  have boundT : t.detail < 4294967296 := t.detail_lt
  have spread : s.stage * 4294967296 + s.detail = t.stage * 4294967296 + t.detail := same
  exact eq_of_stage_of_detail (by omega) (by omega)

instance : LT ActionSlot where
  lt s t := s.rank < t.rank

instance (s t : ActionSlot) : Decidable (s < t) := inferInstanceAs (Decidable (s.rank < t.rank))

instance : Ord ActionSlot where
  compare s t := compare s.rank t.rank

theorem lt_iff_rank_lt {s t : ActionSlot} : s < t ↔ s.rank < t.rank := Iff.rfl

/-- Slots are ordered by stage, and those of one stage by what sets them apart. -/
theorem lt_iff {s t : ActionSlot} :
    s < t ↔ s.stage < t.stage ∨ s.stage = t.stage ∧ s.detail < t.detail := by
  have boundS : s.detail < 4294967296 := s.detail_lt
  have boundT : t.detail < 4294967296 := t.detail_lt
  change s.stage * 4294967296 + s.detail < t.stage * 4294967296 + t.detail ↔ _
  omega

theorem lt_trans {s t u : ActionSlot} (first : s < t) (second : t < u) : s < u :=
  Nat.lt_trans first second

theorem ne_of_lt {s t : ActionSlot} (before : s < t) : s ≠ t := by
  rintro rfl
  exact Nat.lt_irrefl _ before

theorem lt_of_not_lt_of_ne {s t : ActionSlot} (notBefore : ¬ s < t) (distinct : s ≠ t) : t < s := by
  have ranks : s.rank ≠ t.rank := fun same => distinct (rank_injective same)
  simp only [lt_iff_rank_lt] at *
  omega

def text : ActionSlot → String
  | .copyTtlIn => "copy_ttl_in"
  | .popVlan => "pop_vlan"
  | .popMpls => "pop_mpls"
  | .pushMpls => "push_mpls"
  | .pushVlan => "push_vlan"
  | .copyTtlOut => "copy_ttl_out"
  | .decMplsTtl => "dec_mpls_ttl"
  | .decNwTtl => "dec_nw_ttl"
  | .setMplsTtl => "set_mpls_ttl"
  | .setNwTtl => "set_nw_ttl"
  | .setField kind => "set_field(" ++ kind.name ++ ")"
  | .setQueue => "set_queue"
  | .experimenter id => "experimenter(" ++ id.toNat.repr ++ ")"
  | .group => "group"
  | .output => "output"

end ActionSlot

def Action.slot : Action → ActionSlot
  | .copyTtlIn => .copyTtlIn
  | .popVlan => .popVlan
  | .popMpls => .popMpls
  | .pushMpls _ => .pushMpls
  | .pushVlan _ => .pushVlan
  | .copyTtlOut => .copyTtlOut
  | .decMplsTtl => .decMplsTtl
  | .decNwTtl => .decNwTtl
  | .setMplsTtl _ => .setMplsTtl
  | .setNwTtl _ => .setNwTtl
  | .setField field => .setField field.kind
  | .setQueue _ => .setQueue
  | .experimenter id => .experimenter id
  | .group _ => .group
  | .output _ => .output

theorem ActionSlot.group_lt_output : ActionSlot.group < ActionSlot.output := by decide

/-- The slots of the actions that hand the packet on come after all others. -/
theorem Action.slot_lt_group {action : Action} (quiet : action.dispatches = false) :
    action.slot < .group := by
  have stages : action.slot.stage < 13 := by
    cases action
    case output | group => cases quiet
    all_goals simp [Action.slot, ActionSlot.stage]
  have bound : action.slot.detail < 4294967296 := action.slot.detail_lt
  change action.slot.stage * 4294967296 + action.slot.detail < 13 * 4294967296 + 0
  omega

theorem Action.dispatches_eq (action : Action) :
    action.dispatches = (decide (action.slot = .group) || decide (action.slot = .output)) := by
  cases action <;> rfl

end OpenFlow
