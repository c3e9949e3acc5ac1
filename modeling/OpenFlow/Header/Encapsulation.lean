import OpenFlow.Config
import OpenFlow.Header.Stack

/-!
# Pushing and popping

A VLAN tag goes in right after the Ethernet header and inherits its identity
from the first VLAN tag there is. An MPLS label goes onto the first MPLS tag,
or into a new tag after the VLAN tag or else the Ethernet header.
-/
namespace OpenFlow

namespace HeaderStack

/-- The identifier and priority of the first VLAN tag, or the defaults. -/
def vlanIdentity (stack : HeaderStack) (defaults : VlanDefaults) : UInt16 × UInt8 :=
  match stack.find .vlan with
  | some (_, .vlan tag) => (tag.vid, tag.pcp)
  | _ => (defaults.vid, defaults.pcp)

def pushVlan (stack : HeaderStack) (etherType : UInt16) (defaults : VlanDefaults) : HeaderStack :=
  let (vid, pcp) := stack.vlanIdentity defaults
  stack.editFirst .ether fun tag => .insertAfter tag (.vlan { pcp, vid, etherType })

/-- A packet down to its last header keeps it. -/
def popVlan (stack : HeaderStack) : HeaderStack :=
  if stack.size ≤ 1 then stack else stack.editFirst .vlan fun _ => .delete

/-- The time to live of the first IPv4 header, zero when there is none. -/
def ipv4Ttl (stack : HeaderStack) : UInt8 :=
  ((stack.find .ipv4).bind fun found => found.2.ttl?).getD 0

/-- Duplicate the outermost label, which is then no bottom of stack. -/
def duplicateLabel : HeaderTag → Edit
  | .mpls tag => .replace (.mpls (tag.push { tag.outermost with bos := false }))
  | tag => .replace tag

def pushMpls (stack : HeaderStack) (etherType : UInt16) : HeaderStack :=
  if stack.contains .mpls then stack.editFirst .mpls duplicateLabel
  else
    let entry : LabelEntry := { label := 0, tc := 0, bos := true, ttl := stack.ipv4Ttl }
    let anchor : HeaderKind := if stack.contains .vlan then .vlan else .ether
    stack.editFirst anchor fun tag => .insertAfter tag (.mpls (.single etherType entry))

/-- Drop the outermost label, and the tag with its last label. -/
def dropLabel : HeaderTag → Edit
  | .mpls tag =>
    match tag.pop? with
    | some (_, rest) => .replace (.mpls rest)
    | none => .delete
  | tag => .replace tag

def popMpls (stack : HeaderStack) : HeaderStack := stack.editFirst .mpls dropLabel

end HeaderStack

end OpenFlow
