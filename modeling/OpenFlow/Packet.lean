import OpenFlow.Action.Set

/-!
# Packets

A packet is its parsed headers with a payload that no action looks at, the port
it came in by, and what the pipeline has decided about it so far.
-/
namespace OpenFlow

structure Packet where
  inPort : PortNo
  headers : HeaderStack
  payload : List UInt8
  /-- The egress queue that was selected, if any. -/
  queue : Option UInt32 := none
  /-- Set when the packet is handed to the controller. -/
  packetInReason : Option PacketInReason := none
  /-- The actions deferred to the end of the pipeline. -/
  actionSet : ActionSet := .empty
deriving DecidableEq, Repr

end OpenFlow
