import OpenFlow.Packet

/-!
# Sample packets

Tags and packets of a guest that talks to a remote host through a gateway.
-/
namespace OpenFlow.Sample

def guestMac : MacAddr := ⟨0xA8, 0x40, 0x25, 0xF7, 0x00, 0x01⟩

def gatewayMac : MacAddr := ⟨0xA8, 0x40, 0x25, 0xFF, 0x77, 0x77⟩

def guestAddr : Ipv4Addr := ⟨10, 0, 0, 5⟩

def remoteAddr : Ipv4Addr := ⟨192, 168, 1, 10⟩

def inPort : PortNo := .number 1

def payload : List UInt8 := "payload".toList.map fun c => UInt8.ofNat c.toNat

def ether : HeaderTag := .ether ⟨gatewayMac, guestMac, EtherType.ipv4⟩

def vlan (vid : UInt16) (pcp : UInt8) : HeaderTag := .vlan ⟨pcp, vid, EtherType.vlan⟩

inductive SampleError where
  | noLabels
deriving DecidableEq, Repr

def SampleError.message : SampleError → String
  | .noLabels => "at least one label"

/-- Labels numbered from 100, with the bottom-of-stack bit on the last. -/
def labels (ttls : List UInt8) : List LabelEntry :=
  ttls.mapIdx fun i ttl =>
    { label := UInt32.ofNat (100 + i), tc := 0, bos := i + 1 = ttls.length, ttl }

/-- An MPLS tag with one label for each time to live, outermost first. -/
def mpls (ttls : List UInt8) : Except SampleError HeaderTag :=
  match MplsTag.ofEntries? EtherType.mpls (labels ttls) with
  | some tag => .ok (.mpls tag)
  | none => .error .noLabels

def ipv4 (ttl : UInt8) : HeaderTag :=
  .ipv4 { dscp := 0, ecn := 0, proto := 17, src := guestAddr, dst := remoteAddr, ttl }

def packet (tags : List HeaderTag) : Packet := { inPort, headers := ⟨tags⟩, payload }

end OpenFlow.Sample
