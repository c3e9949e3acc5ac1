import OpenFlow.Header.Stack

/-!
# Settable fields

A field belongs to one kind of header, and setting it writes the first header
of that kind; fields of an MPLS tag are those of its outermost label. Values
wider than their field on the wire are cut to its width.
-/
namespace OpenFlow

inductive FieldKind where
  | ethDst
  | ethSrc
  | ethType
  | vlanVid
  | vlanPcp
  | mplsLabel
  | mplsTc
  | mplsBos
  | ipDscp
  | ipEcn
  | ipProto
  | ipv4Src
  | ipv4Dst
deriving DecidableEq, Repr

namespace FieldKind

def rank : FieldKind → Nat
  | .ethDst => 0
  | .ethSrc => 1
  | .ethType => 2
  | .vlanVid => 3
  | .vlanPcp => 4
  | .mplsLabel => 5
  | .mplsTc => 6
  | .mplsBos => 7
  | .ipDscp => 8
  | .ipEcn => 9
  | .ipProto => 10
  | .ipv4Src => 11
  | .ipv4Dst => 12

instance : Ord FieldKind where
  compare j k := compare j.rank k.rank

theorem rank_injective {j k : FieldKind} (same : j.rank = k.rank) : j = k := by
  cases j <;> cases k <;> simp_all [rank]

def owner : FieldKind → HeaderKind
  | .ethDst | .ethSrc | .ethType => .ether
  | .vlanVid | .vlanPcp => .vlan
  | .mplsLabel | .mplsTc | .mplsBos => .mpls
  | .ipDscp | .ipEcn | .ipProto | .ipv4Src | .ipv4Dst => .ipv4

def name : FieldKind → String
  | .ethDst => "EthDst"
  | .ethSrc => "EthSrc"
  | .ethType => "EthType"
  | .vlanVid => "VlanVid"
  | .vlanPcp => "VlanPcp"
  | .mplsLabel => "MplsLabel"
  | .mplsTc => "MplsTc"
  | .mplsBos => "MplsBos"
  | .ipDscp => "IpDscp"
  | .ipEcn => "IpEcn"
  | .ipProto => "IpProto"
  | .ipv4Src => "Ipv4Src"
  | .ipv4Dst => "Ipv4Dst"

end FieldKind

namespace FieldMask

def vlanVid : UInt16 := 0x0FFF

def vlanPcp : UInt8 := 0x07

def mplsLabel : UInt32 := 0x000FFFFF

def mplsTc : UInt8 := 0x07

def ipDscp : UInt8 := 0x3F

def ipEcn : UInt8 := 0x03

end FieldMask

/-- A field together with the value to write into it. -/
inductive SetField where
  | ethDst (value : MacAddr)
  | ethSrc (value : MacAddr)
  | ethType (value : UInt16)
  | vlanVid (value : UInt16)
  | vlanPcp (value : UInt8)
  | mplsLabel (value : UInt32)
  | mplsTc (value : UInt8)
  | mplsBos (value : Bool)
  | ipDscp (value : UInt8)
  | ipEcn (value : UInt8)
  | ipProto (value : UInt8)
  | ipv4Src (value : Ipv4Addr)
  | ipv4Dst (value : Ipv4Addr)
deriving DecidableEq, Repr

namespace SetField

def kind : SetField → FieldKind
  | .ethDst _ => .ethDst
  | .ethSrc _ => .ethSrc
  | .ethType _ => .ethType
  | .vlanVid _ => .vlanVid
  | .vlanPcp _ => .vlanPcp
  | .mplsLabel _ => .mplsLabel
  | .mplsTc _ => .mplsTc
  | .mplsBos _ => .mplsBos
  | .ipDscp _ => .ipDscp
  | .ipEcn _ => .ipEcn
  | .ipProto _ => .ipProto
  | .ipv4Src _ => .ipv4Src
  | .ipv4Dst _ => .ipv4Dst

def owner (field : SetField) : HeaderKind := field.kind.owner

def text : SetField → String
  | .ethDst address => "eth_dst=" ++ address.text
  | .ethSrc address => "eth_src=" ++ address.text
  | .ethType number => "eth_type=" ++ Text.hex 4 number.toNat
  | .vlanVid vid => "vlan_vid=" ++ vid.toNat.repr
  | .vlanPcp pcp => "vlan_pcp=" ++ pcp.toNat.repr
  | .mplsLabel label => "mpls_label=" ++ label.toNat.repr
  | .mplsTc tc => "mpls_tc=" ++ tc.toNat.repr
  | .mplsBos bos => "mpls_bos=" ++ if bos then "1" else "0"
  | .ipDscp dscp => "ip_dscp=" ++ dscp.toNat.repr
  | .ipEcn ecn => "ip_ecn=" ++ ecn.toNat.repr
  | .ipProto proto => "ip_proto=" ++ proto.toNat.repr
  | .ipv4Src address => "ipv4_src=" ++ address.text
  | .ipv4Dst address => "ipv4_dst=" ++ address.text

def writeEther (header : EtherHeader) : SetField → EtherHeader
  | .ethDst dst => { header with dst }
  | .ethSrc src => { header with src }
  | .ethType etherType => { header with etherType }
  | _ => header

def writeVlan (tag : VlanTag) : SetField → VlanTag
  | .vlanVid vid => { tag with vid := vid &&& FieldMask.vlanVid }
  | .vlanPcp pcp => { tag with pcp := pcp &&& FieldMask.vlanPcp }
  | _ => tag

def writeLabel (entry : LabelEntry) : SetField → LabelEntry
  | .mplsLabel label => { entry with label := label &&& FieldMask.mplsLabel }
  | .mplsTc tc => { entry with tc := tc &&& FieldMask.mplsTc }
  | .mplsBos bos => { entry with bos }
  | _ => entry

def writeIpv4 (header : Ipv4Header) : SetField → Ipv4Header
  | .ipDscp dscp => { header with dscp := dscp &&& FieldMask.ipDscp }
  | .ipEcn ecn => { header with ecn := ecn &&& FieldMask.ipEcn }
  | .ipProto proto => { header with proto }
  | .ipv4Src src => { header with src }
  | .ipv4Dst dst => { header with dst }
  | _ => header

/-- A tag that does not hold the field stays as it is. -/
def write (field : SetField) : HeaderTag → HeaderTag
  | .ether header => .ether (field.writeEther header)
  | .vlan tag => .vlan (field.writeVlan tag)
  | .mpls tag => .mpls (tag.withOutermost (field.writeLabel tag.outermost))
  | .ipv4 header => .ipv4 (field.writeIpv4 header)

theorem kind_write (field : SetField) (tag : HeaderTag) : (field.write tag).kind = tag.kind := by
  cases tag <;> rfl

end SetField

def HeaderStack.setField (stack : HeaderStack) (field : SetField) : HeaderStack :=
  (stack.modifyFirst? field.owner field.write).getD stack

end OpenFlow
