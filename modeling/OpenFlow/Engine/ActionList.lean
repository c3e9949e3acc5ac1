import OpenFlow.Diagnostic.ErrorTrace
import OpenFlow.Engine.Run
import OpenFlow.Header.Encapsulation
import OpenFlow.Header.Ttl

/-!
# Action lists

The actions of a list are applied in order, each to the packet as the one
before left it. Output and group actions hand a snapshot of the packet on and
report it as a side effect. A list stops early only at a decrement of a time to
live that is already zero: the packet is then redirected to the controller.
-/
namespace OpenFlow

/-- A packet that was handed on while actions were applied. -/
inductive SideEffect where
  | output (port : PortNo) (packet : Packet)
  | group (id : GroupId) (packet : Packet)
deriving DecidableEq, Repr

namespace SideEffect

def packet : SideEffect → Packet
  | .output _ packet => packet
  | .group _ packet => packet

def text : SideEffect → String
  | .output port _ => "output:" ++ port.text
  | .group id _ => "group:" ++ id.text

end SideEffect

namespace Packet

def mapHeaders (packet : Packet) (change : HeaderStack → HeaderStack) : Packet :=
  { packet with headers := change packet.headers }

def decTtl (packet : Packet) (header : TtlHeader) : Except ActionError Packet :=
  (packet.headers.decTtl header).map fun headers => { packet with headers }

/-- A layout for which copying is not defined is left alone. -/
def copyTtl (packet : Packet) (direction : CopyDirection) : Packet :=
  packet.mapHeaders fun headers => (headers.copyTtl? direction).getD headers

end Packet

namespace Action

/-- The packet after an action. -/
def transform (defaults : VlanDefaults) (packet : Packet) : Action → Except ActionError Packet
  | .setQueue queue => .ok { packet with queue := some queue }
  | .setMplsTtl ttl => .ok (packet.mapHeaders (·.setTtl .mpls ttl))
  | .decMplsTtl => packet.decTtl .mpls
  | .setNwTtl ttl => .ok (packet.mapHeaders (·.setTtl .ipv4 ttl))
  | .decNwTtl => packet.decTtl .ipv4
  | .copyTtlOut => .ok (packet.copyTtl .outward)
  | .copyTtlIn => .ok (packet.copyTtl .inward)
  | .pushVlan etherType => .ok (packet.mapHeaders (·.pushVlan etherType defaults))
  | .popVlan => .ok (packet.mapHeaders HeaderStack.popVlan)
  | .pushMpls etherType => .ok (packet.mapHeaders (·.pushMpls etherType))
  | .popMpls => .ok (packet.mapHeaders HeaderStack.popMpls)
  | .setField field => .ok (packet.mapHeaders (·.setField field))
  | .output _ | .group _ | .experimenter _ => .ok packet

/-- The side effect of an action on the packet it meets, if it has one. -/
def effects (packet : Packet) : Action → List SideEffect
  | .output port => [.output port packet]
  | .group id => [.group id packet]
  | _ => []

theorem isEmpty_effects (packet : Packet) (action : Action) :
    (action.effects packet).isEmpty = !action.dispatches := by
  cases action <;> rfl

end Action

namespace Datapath

/-- How many layers of an error a log line shows. -/
def traceDepth : Nat := 4

/-- Note that copying the time to live is not defined for the packet's layout. -/
def noteUndefinedCopy (datapath : Datapath) (action : Action) (direction : CopyDirection)
    (packet : Packet) : Journal :=
  if (packet.headers.copyTtl? direction).isNone && datapath.config.logUndefinedCopyTtl then
    datapath.logger.log .note
      (action.text ++ " undefined for headers ["
        ++ "/".intercalate (packet.headers.kinds.map HeaderKind.text) ++ "], ignored")
  else []

/-- What an action that succeeds does besides changing the packet. -/
def eventsOf (datapath : Datapath) (packet : Packet) (action : Action) : Journal :=
  match action with
  | .output port => datapath.transmit port packet
  | .group id => [.applied id packet]
  | .copyTtlOut => datapath.noteUndefinedCopy action .outward packet
  | .copyTtlIn => datapath.noteUndefinedCopy action .inward packet
  | _ => []

/-- Hand a packet that failed to the controller, with a note. -/
def redirect (datapath : Datapath) (error : ActionError) (packet : Packet) : Journal :=
  let trace : ErrorTrace traceDepth := (ErrorTrace.ofError error.value).trace
  datapath.logger.log .note
      (trace.text ++ ": packet from port " ++ packet.inPort.text ++ " sent to "
        ++ datapath.config.controller.text)
    ++ datapath.transmit datapath.config.controller
      { packet with packetInReason := some .invalidTtl }

theorem attempts_redirect (datapath : Datapath) (error : ActionError) (packet : Packet) :
    Journal.attempts (datapath.redirect error packet) =
      [(datapath.config.controller, { packet with packetInReason := some .invalidTtl })] := by
  simp [redirect]

theorem groups_redirect (datapath : Datapath) (error : ActionError) (packet : Packet) :
    Journal.groups (datapath.redirect error packet) = [] := by
  simp [redirect]

def applyAction (datapath : Datapath) (action : Action) (packet : Packet) : Run Packet :=
  match action.transform datapath.config.vlanDefaults packet with
  | .ok next => ⟨datapath.eventsOf packet action, .ok next⟩
  | .error error => ⟨datapath.redirect error packet, .error error⟩

/-- The packet after all actions, with their side effects in order. -/
def applyList (datapath : Datapath) (packet : Packet) :
    List Action → Run (Packet × List SideEffect)
  | [] => pure (packet, [])
  | action :: rest => do
    let next ← datapath.applyAction action packet
    let (last, effects) ← datapath.applyList next rest
    pure (last, action.effects packet ++ effects)

end Datapath

end OpenFlow
