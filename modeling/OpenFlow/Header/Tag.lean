import OpenFlow.Address.Ipv4
import OpenFlow.Address.Mac
import OpenFlow.Header.Kind
import OpenFlow.Header.Label

/-!
# Header tags

A tag is one parsed header of a packet. MPLS tags and IPv4 headers carry times
to live; that of an MPLS tag is the one of its outermost label.
-/
namespace OpenFlow

namespace EtherType

def ipv4 : UInt16 := 0x0800

def vlan : UInt16 := 0x8100

def qinq : UInt16 := 0x88A8

def mpls : UInt16 := 0x8847

def mplsMulticast : UInt16 := 0x8848

end EtherType

structure EtherHeader where
  dst : MacAddr
  src : MacAddr
  etherType : UInt16
deriving DecidableEq, Repr, Inhabited

structure VlanTag where
  pcp : UInt8
  vid : UInt16
  etherType : UInt16
deriving DecidableEq, Repr, Inhabited

structure Ipv4Header where
  dscp : UInt8
  ecn : UInt8
  proto : UInt8
  src : Ipv4Addr
  dst : Ipv4Addr
  ttl : UInt8
deriving DecidableEq, Repr, Inhabited

inductive HeaderTag where
  | ether (header : EtherHeader)
  | vlan (tag : VlanTag)
  | mpls (tag : MplsTag)
  | ipv4 (header : Ipv4Header)
deriving DecidableEq, Repr

def EtherHeader.text (header : EtherHeader) : String :=
  "ETHER(" ++ header.src.text ++ " -> " ++ header.dst.text ++ ", "
    ++ Text.hex 4 header.etherType.toNat ++ ")"

def VlanTag.text (tag : VlanTag) : String :=
  "VLAN(vid=" ++ tag.vid.toNat.repr ++ ", pcp=" ++ tag.pcp.toNat.repr ++ ", "
    ++ Text.hex 4 tag.etherType.toNat ++ ")"

def MplsTag.text (tag : MplsTag) : String :=
  "MPLS(" ++ Text.hex 4 tag.etherType.toNat ++ ", ttl=["
    ++ ",".intercalate (tag.entries.map fun entry => entry.ttl.toNat.repr) ++ "])"

def Ipv4Header.text (header : Ipv4Header) : String :=
  "IPv4(" ++ header.src.text ++ " -> " ++ header.dst.text ++ ", ttl="
    ++ header.ttl.toNat.repr ++ ")"

namespace HeaderTag

def kind : HeaderTag → HeaderKind
  | .ether _ => .ether
  | .vlan _ => .vlan
  | .mpls _ => .mpls
  | .ipv4 _ => .ipv4

def ttl? : HeaderTag → Option UInt8
  | .mpls tag => some tag.outermost.ttl
  | .ipv4 header => some header.ttl
  | .ether _ | .vlan _ => none

theorem exists_ttl?_of_kind {tag : HeaderTag} {header : TtlHeader}
    (same : tag.kind = header.kind) : ∃ ttl, tag.ttl? = some ttl := by
  cases tag with
  | mpls tag => exact ⟨tag.outermost.ttl, rfl⟩
  | ipv4 header => exact ⟨header.ttl, rfl⟩
  | _ => cases header <;> cases same

/-- Every time to live in the tag, outermost first, one for each label. -/
def ttls : HeaderTag → List UInt8
  | .mpls tag => tag.entries.map LabelEntry.ttl
  | .ipv4 header => [header.ttl]
  | .ether _ | .vlan _ => []

theorem head?_ttls (tag : HeaderTag) : tag.ttls.head? = tag.ttl? := by
  cases tag <;> rfl

def withTtl (ttl : UInt8) : HeaderTag → HeaderTag
  | .mpls tag => .mpls (tag.withOutermost { tag.outermost with ttl })
  | .ipv4 header => .ipv4 { header with ttl }
  | tag => tag

theorem kind_withTtl (ttl : UInt8) (tag : HeaderTag) : (tag.withTtl ttl).kind = tag.kind := by
  cases tag <;> rfl

def text : HeaderTag → String
  | .ether header => header.text
  | .vlan tag => tag.text
  | .mpls tag => tag.text
  | .ipv4 header => header.text

end HeaderTag

end OpenFlow
