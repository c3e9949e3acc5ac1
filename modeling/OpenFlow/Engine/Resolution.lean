import OpenFlow.Engine.ActionList

/-!
# Resolving action sets

At the end of the pipeline the actions of a packet's action set are applied in
the order of their slots. The first that hands the packet on ends the
resolution, so a group action keeps an output action from being applied. A set
without either drops the packet.
-/
namespace OpenFlow

inductive Resolution where
  | drop (packet : Packet)
  | effect (effect : SideEffect)
deriving DecidableEq, Repr

/-- What the action that ended a resolution leaves: its side effect, if it had one. -/
def Resolution.ofEffects (packet : Packet) (effects : List SideEffect) : Resolution :=
  match effects.getLast? with
  | some last => .effect last
  | none => .drop packet

namespace Datapath

/-- Apply actions one at a time, up to the first that hands the packet on. -/
def resolve (datapath : Datapath) (packet : Packet) : List Action → Run Resolution
  | [] => pure (.drop packet)
  | action :: rest => do
    let (next, effects) ← datapath.applyList packet [action]
    if action.dispatches then pure (.ofEffects next effects)
    else datapath.resolve next rest

/-- A round of the resolution takes the first action out of the set. -/
theorem resolve_toList (datapath : Datapath) (packet : Packet) (set : ActionSet) :
    datapath.resolve packet set.toList =
      match set.popFirst? with
      | none => pure (.drop packet)
      | some (action, rest) => (do
        let (next, effects) ← datapath.applyList packet [action]
        if action.dispatches then pure (.ofEffects next effects)
        else datapath.resolve next rest.toList) := by
  obtain ⟨actions, sorted⟩ := set
  cases actions <;> rfl

def applySet (datapath : Datapath) (packet : Packet) : Run Resolution :=
  datapath.resolve { packet with actionSet := .empty } packet.actionSet.toList

end Datapath

end OpenFlow
