import OpenFlow.Port

/-!
# Engine configuration

What a run may be told beyond the packet and its actions: where packets with an
exhausted time to live go, what pushed VLAN tags carry when there is nothing to
inherit, and whether undefined copies are noted in the log.
-/
namespace OpenFlow

/-- The OpenFlow wire version of the action semantics, that of OpenFlow 1.3. -/
def wireVersion : UInt8 := 4

/-- What a pushed VLAN tag carries when there is no VLAN tag to inherit from. -/
structure VlanDefaults where
  vid : UInt16 := 1
  pcp : UInt8 := 0
deriving DecidableEq, Repr, Inhabited

structure Config where
  /-- Where a packet with an exhausted time to live is sent. -/
  controller : PortNo := .controller
  vlanDefaults : VlanDefaults := {}
  /-- Whether a copy of the time to live that is not defined leaves a note. -/
  logUndefinedCopyTtl : Bool := true
deriving DecidableEq, Repr

end OpenFlow
