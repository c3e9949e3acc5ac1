import OpenFlow.Header.Field
import OpenFlow.Port

/-!
# Actions

What a flow table asks to be done with a packet, and the text each action is
shown by. The texts start with the name of the action, and a colon separates it
from its argument.
-/
namespace OpenFlow

inductive Action where
  | output (port : PortNo)
  | group (id : GroupId)
  | setQueue (queue : UInt32)
  | setMplsTtl (ttl : UInt8)
  | decMplsTtl
  | setNwTtl (ttl : UInt8)
  | decNwTtl
  | copyTtlOut
  | copyTtlIn
  | pushVlan (etherType : UInt16)
  | popVlan
  | pushMpls (etherType : UInt16)
  | popMpls
  | setField (field : SetField)
  /-- An extension by a vendor, without effect here. -/
  | experimenter (id : UInt32)
deriving DecidableEq, Repr

namespace Action

def text : Action → String
  | .output port => "output:" ++ port.text
  | .group id => "group:" ++ id.text
  | .setQueue queue => "set_queue:" ++ queue.toNat.repr
  | .setMplsTtl ttl => "set_mpls_ttl:" ++ ttl.toNat.repr
  | .decMplsTtl => "dec_mpls_ttl"
  | .setNwTtl ttl => "set_nw_ttl:" ++ ttl.toNat.repr
  | .decNwTtl => "dec_nw_ttl"
  | .copyTtlOut => "copy_ttl_out"
  | .copyTtlIn => "copy_ttl_in"
  | .pushVlan etherType => "push_vlan:" ++ Text.hex 4 etherType.toNat
  | .popVlan => "pop_vlan"
  | .pushMpls etherType => "push_mpls:" ++ Text.hex 4 etherType.toNat
  | .popMpls => "pop_mpls"
  | .setField field => "set_field:" ++ field.text
  | .experimenter id => "experimenter:" ++ id.toNat.repr

/-- Group and output actions hand the packet on. -/
def dispatches : Action → Bool
  | .output _ | .group _ => true
  | _ => false

end Action

end OpenFlow
