import OpenFlow.Document.Basic
import OpenFlow.Header.Stack

/-!
# Header documents

The documents of addresses and headers. An MPLS tag is read from a list of
labels, which must not be empty.
-/
namespace OpenFlow

instance : Serial MacAddr where
  encode address := .record [("inner", encode address.bytes)]
  decode document := do
    match ← document.fields ["inner"] with
    | [inner] =>
      match MacAddr.ofBytes? (← decode inner) with
      | some address => .ok address
      | none => .error .mismatch
    | _ => .error .mismatch

instance : Serial Ipv4Addr where
  encode address := .record [("inner", encode address.bytes)]
  decode document := do
    match ← document.fields ["inner"] with
    | [inner] =>
      match Ipv4Addr.ofBytes? (← decode inner) with
      | some address => .ok address
      | none => .error .mismatch
    | _ => .error .mismatch

instance : Serial HeaderKind where
  encode
    | .ether => .text "Ether"
    | .vlan => .text "Vlan"
    | .mpls => .text "Mpls"
    | .ipv4 => .text "Ipv4"
  decode := decodeName [("Ether", .ether), ("Vlan", .vlan), ("Mpls", .mpls), ("Ipv4", .ipv4)]

instance : Serial TtlHeader where
  encode
    | .mpls => .text "Mpls"
    | .ipv4 => .text "Ipv4"
  decode := decodeName [("Mpls", .mpls), ("Ipv4", .ipv4)]

instance : Serial EtherHeader where
  encode header :=
    .record [("dst", encode header.dst), ("src", encode header.src),
      ("ether_type", encode header.etherType)]
  decode document := do
    match ← document.fields ["dst", "src", "ether_type"] with
    | [dst, src, etherType] =>
      return { dst := ← decode dst, src := ← decode src, etherType := ← decode etherType }
    | _ => .error .mismatch

instance : Serial VlanTag where
  encode tag :=
    .record [("pcp", encode tag.pcp), ("vid", encode tag.vid), ("ether_type", encode tag.etherType)]
  decode document := do
    match ← document.fields ["pcp", "vid", "ether_type"] with
    | [pcp, vid, etherType] =>
      return { pcp := ← decode pcp, vid := ← decode vid, etherType := ← decode etherType }
    | _ => .error .mismatch

instance : Serial LabelEntry where
  encode entry :=
    .record [("label", encode entry.label), ("tc", encode entry.tc), ("bos", encode entry.bos),
      ("ttl", encode entry.ttl)]
  decode document := do
    match ← document.fields ["label", "tc", "bos", "ttl"] with
    | [label, tc, bos, ttl] =>
      return { label := ← decode label, tc := ← decode tc, bos := ← decode bos, ttl := ← decode ttl }
    | _ => .error .mismatch

instance : Serial MplsTag where
  encode tag := .record [("ether_type", encode tag.etherType), ("stack", encode tag.entries)]
  decode document := do
    match ← document.fields ["ether_type", "stack"] with
    | [etherType, stack] =>
      match MplsTag.ofEntries? (← decode etherType) (← decode stack) with
      | some tag => .ok tag
      | none => .error .emptyLabelStack
    | _ => .error .mismatch

instance : Serial Ipv4Header where
  encode header :=
    .record [("dscp", encode header.dscp), ("ecn", encode header.ecn),
      ("proto", encode header.proto), ("src", encode header.src), ("dst", encode header.dst),
      ("ttl", encode header.ttl)]
  decode document := do
    match ← document.fields ["dscp", "ecn", "proto", "src", "dst", "ttl"] with
    | [dscp, ecn, proto, src, dst, ttl] =>
      return {
        dscp := ← decode dscp, ecn := ← decode ecn, proto := ← decode proto
        src := ← decode src, dst := ← decode dst, ttl := ← decode ttl }
    | _ => .error .mismatch

instance : Serial HeaderTag where
  encode
    | .ether header => .variant "Ether" (encode header)
    | .vlan tag => .variant "Vlan" (encode tag)
    | .mpls tag => .variant "Mpls" (encode tag)
    | .ipv4 header => .variant "Ipv4" (encode header)
  decode
    | .record [("Ether", data)] => (decode data).map .ether
    | .record [("Vlan", data)] => (decode data).map .vlan
    | .record [("Mpls", data)] => (decode data).map .mpls
    | .record [("Ipv4", data)] => (decode data).map .ipv4
    | _ => .error .mismatch

instance : Serial HeaderStack where
  encode stack := .record [("tags", encode stack.tags)]
  decode document := do
    match ← document.fields ["tags"] with
    | [tags] => return { tags := ← decode tags }
    | _ => .error .mismatch

end OpenFlow
