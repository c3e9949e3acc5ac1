import OpenFlow.Action.Set
import OpenFlow.Config
import OpenFlow.Document.Header

/-!
# Action documents

The documents of ports, actions, action sets and the configuration. An action
set is a list of actions, and reading one writes them in turn.
-/
namespace OpenFlow

instance : Serial PortNo where
  encode
    | .number n => .variant "Port" (encode n)
    | .inPort => .text "InPort"
    | .table => .text "Table"
    | .normal => .text "Normal"
    | .flood => .text "Flood"
    | .all => .text "All"
    | .controller => .text "Controller"
    | .localPort => .text "Local"
    | .any => .text "Any"
  decode
    | .record [("Port", data)] => (decode data).map .number
    | document =>
      decodeName [("InPort", .inPort), ("Table", .table), ("Normal", .normal), ("Flood", .flood),
        ("All", .all), ("Controller", .controller), ("Local", .localPort), ("Any", .any)] document

instance : Serial GroupId where
  encode group := encode group.number
  decode document := (decode document).map GroupId.mk

instance : Serial PacketInReason where
  encode
    | .noMatch => .text "NoMatch"
    | .action => .text "Action"
    | .invalidTtl => .text "InvalidTtl"
  decode := decodeName [("NoMatch", .noMatch), ("Action", .action), ("InvalidTtl", .invalidTtl)]

namespace FieldKind

def all : List FieldKind :=
  [.ethDst, .ethSrc, .ethType, .vlanVid, .vlanPcp, .mplsLabel, .mplsTc, .mplsBos, .ipDscp, .ipEcn,
    .ipProto, .ipv4Src, .ipv4Dst]

theorem mem_all (kind : FieldKind) : kind ∈ all := by
  cases kind <;> simp [all]

instance : Serial FieldKind where
  encode kind := .text kind.name
  decode := decodeName (all.map fun kind => (kind.name, kind))

end FieldKind

instance : Serial SetField where
  encode
    | .ethDst value => .variant "EthDst" (encode value)
    | .ethSrc value => .variant "EthSrc" (encode value)
    | .ethType value => .variant "EthType" (encode value)
    | .vlanVid value => .variant "VlanVid" (encode value)
    | .vlanPcp value => .variant "VlanPcp" (encode value)
    | .mplsLabel value => .variant "MplsLabel" (encode value)
    | .mplsTc value => .variant "MplsTc" (encode value)
    | .mplsBos value => .variant "MplsBos" (encode value)
    | .ipDscp value => .variant "IpDscp" (encode value)
    | .ipEcn value => .variant "IpEcn" (encode value)
    | .ipProto value => .variant "IpProto" (encode value)
    | .ipv4Src value => .variant "Ipv4Src" (encode value)
    | .ipv4Dst value => .variant "Ipv4Dst" (encode value)
  decode
    | .record [("EthDst", data)] => (decode data).map .ethDst
    | .record [("EthSrc", data)] => (decode data).map .ethSrc
    | .record [("EthType", data)] => (decode data).map .ethType
    | .record [("VlanVid", data)] => (decode data).map .vlanVid
    | .record [("VlanPcp", data)] => (decode data).map .vlanPcp
    | .record [("MplsLabel", data)] => (decode data).map .mplsLabel
    | .record [("MplsTc", data)] => (decode data).map .mplsTc
    | .record [("MplsBos", data)] => (decode data).map .mplsBos
    | .record [("IpDscp", data)] => (decode data).map .ipDscp
    | .record [("IpEcn", data)] => (decode data).map .ipEcn
    | .record [("IpProto", data)] => (decode data).map .ipProto
    | .record [("Ipv4Src", data)] => (decode data).map .ipv4Src
    | .record [("Ipv4Dst", data)] => (decode data).map .ipv4Dst
    | _ => .error .mismatch

namespace Action

/-- The one field of an action's data, which has to be a record. -/
def decodeField {α : Type} [Serial α] (name : String) (make : α → Action) (data : Document) :
    Except DocumentError Action :=
  match data.field? name with
  | some value => (decode value).map make
  | none => .error .mismatch

instance : Serial Action where
  encode
    | .output port => .variant "Output" (.record [("port", encode port)])
    | .group id => .variant "Group" (.record [("group_id", encode id)])
    | .setQueue queue => .variant "SetQueue" (.record [("queue_id", encode queue)])
    | .setMplsTtl ttl => .variant "SetMplsTtl" (.record [("ttl", encode ttl)])
    | .decMplsTtl => .text "DecMplsTtl"
    | .setNwTtl ttl => .variant "SetNwTtl" (.record [("ttl", encode ttl)])
    | .decNwTtl => .text "DecNwTtl"
    | .copyTtlOut => .text "CopyTtlOut"
    | .copyTtlIn => .text "CopyTtlIn"
    | .pushVlan etherType => .variant "PushVlan" (.record [("ether_type", encode etherType)])
    | .popVlan => .text "PopVlan"
    | .pushMpls etherType => .variant "PushMpls" (.record [("ether_type", encode etherType)])
    | .popMpls => .text "PopMpls"
    | .setField field => .variant "SetField" (.record [("field", encode field)])
    | .experimenter id => .variant "Experimenter" (.record [("id", encode id)])
  decode
    | .record [("Output", data)] => decodeField "port" .output data
    | .record [("Group", data)] => decodeField "group_id" .group data
    | .record [("SetQueue", data)] => decodeField "queue_id" .setQueue data
    | .record [("SetMplsTtl", data)] => decodeField "ttl" .setMplsTtl data
    | .record [("SetNwTtl", data)] => decodeField "ttl" .setNwTtl data
    | .record [("PushVlan", data)] => decodeField "ether_type" .pushVlan data
    | .record [("PushMpls", data)] => decodeField "ether_type" .pushMpls data
    | .record [("SetField", data)] => decodeField "field" .setField data
    | .record [("Experimenter", data)] => decodeField "id" .experimenter data
    | document =>
      decodeName [("DecMplsTtl", .decMplsTtl), ("DecNwTtl", .decNwTtl),
        ("CopyTtlOut", .copyTtlOut), ("CopyTtlIn", .copyTtlIn), ("PopVlan", .popVlan),
        ("PopMpls", .popMpls)] document

end Action

instance : Serial ActionSlot where
  encode
    | .copyTtlIn => .text "CopyTtlIn"
    | .popVlan => .text "PopVlan"
    | .popMpls => .text "PopMpls"
    | .pushMpls => .text "PushMpls"
    | .pushVlan => .text "PushVlan"
    | .copyTtlOut => .text "CopyTtlOut"
    | .decMplsTtl => .text "DecMplsTtl"
    | .decNwTtl => .text "DecNwTtl"
    | .setMplsTtl => .text "SetMplsTtl"
    | .setNwTtl => .text "SetNwTtl"
    | .setField kind => .variant "SetField" (encode kind)
    | .setQueue => .text "SetQueue"
    | .experimenter id => .variant "Experimenter" (encode id)
    | .group => .text "Group"
    | .output => .text "Output"
  decode
    | .record [("SetField", data)] => (decode data).map .setField
    | .record [("Experimenter", data)] => (decode data).map .experimenter
    | document =>
      decodeName [("CopyTtlIn", .copyTtlIn), ("PopVlan", .popVlan), ("PopMpls", .popMpls),
        ("PushMpls", .pushMpls), ("PushVlan", .pushVlan), ("CopyTtlOut", .copyTtlOut),
        ("DecMplsTtl", .decMplsTtl), ("DecNwTtl", .decNwTtl), ("SetMplsTtl", .setMplsTtl),
        ("SetNwTtl", .setNwTtl), ("SetQueue", .setQueue), ("Group", .group),
        ("Output", .output)] document

instance : Serial ActionSet where
  encode set := encode set.toList
  decode document := (decode document).map ActionSet.ofList

/-- A set is read as a list of actions, whose order and repetitions do not have to be those of
its own list. -/
theorem ActionSet.decode_eq (document : Document) :
    (decode document : Except DocumentError ActionSet) = (decode document).map ActionSet.ofList :=
  rfl

instance : Serial VlanDefaults where
  encode defaults := .record [("vid", encode defaults.vid), ("pcp", encode defaults.pcp)]
  decode document := do
    match ← document.optionalFields ["vid", "pcp"] with
    | [vid, pcp] =>
      return { vid := ← Document.orDefault 1 vid, pcp := ← Document.orDefault 0 pcp }
    | _ => .error .mismatch

instance : Serial Config where
  encode config :=
    .record [("controller", encode config.controller),
      ("vlan_defaults", encode config.vlanDefaults),
      ("log_undefined_copy_ttl", encode config.logUndefinedCopyTtl)]
  decode document := do
    match ← document.optionalFields ["controller", "vlan_defaults", "log_undefined_copy_ttl"] with
    | [port, defaults, log] =>
      return {
        controller := ← Document.orDefault .controller port
        vlanDefaults := ← Document.orDefault {} defaults
        logUndefinedCopyTtl := ← Document.orDefault true log }
    | _ => .error .mismatch

end OpenFlow
