import OpenFlow.Document.Action

/-!
# Documents read back

What is written as a document is read back from it, for all values that actions and
action sets are made of.
-/
namespace OpenFlow

/-- Every value of the type is read back from its document. -/
class LawfulSerial (α : Type) [Serial α] : Prop where
  decode_encode (value : α) : decode (encode value) = .ok value

open LawfulSerial (decode_encode)

theorem map_decode_encode {α β : Type} [Serial α] [LawfulSerial α] (make : α → β) (value : α) :
    (decode (encode value)).map make = .ok (make value) := by
  rw [decode_encode, Except.map]

instance : LawfulSerial UInt8 where
  decode_encode n := by
    have read : decodeNat UInt8.size (encode n) = .ok n.toNat := decodeNat_int n.toNat_lt
    change (decodeNat UInt8.size (encode n)).map UInt8.ofNat = .ok n
    rw [read, Except.map, UInt8.ofNat_toNat]

instance : LawfulSerial UInt16 where
  decode_encode n := by
    have read : decodeNat UInt16.size (encode n) = .ok n.toNat := decodeNat_int n.toNat_lt
    change (decodeNat UInt16.size (encode n)).map UInt16.ofNat = .ok n
    rw [read, Except.map, UInt16.ofNat_toNat]

instance : LawfulSerial UInt32 where
  decode_encode n := by
    have read : decodeNat UInt32.size (encode n) = .ok n.toNat := decodeNat_int n.toNat_lt
    change (decodeNat UInt32.size (encode n)).map UInt32.ofNat = .ok n
    rw [read, Except.map, UInt32.ofNat_toNat]

instance : LawfulSerial Bool where
  decode_encode _ := rfl

instance {α : Type} [Serial α] [LawfulSerial α] : LawfulSerial (List α) where
  decode_encode values := by
    change (values.map encode).mapM decode = Except.ok values
    induction values with
    | nil => rfl
    | cons value rest ih =>
      rw [List.map_cons, List.mapM_cons, decode_encode, ih]
      rfl

/-! ### Addresses and ports -/

/-- The only field of a record is found in it. -/
theorem Document.fields_singleton (name : String) (value : Document) :
    (Document.record [(name, value)]).fields [name] = .ok [value] := by
  simp [Document.fields, pure, Except.pure, bind, Except.bind]

instance : LawfulSerial MacAddr where
  decode_encode address := by
    change ((Document.record [("inner", encode address.bytes)]).fields ["inner"] >>= _) = _
    simp only [Document.fields_singleton, bind, Except.bind, decode_encode, MacAddr.ofBytes?_bytes]

instance : LawfulSerial Ipv4Addr where
  decode_encode address := by
    change ((Document.record [("inner", encode address.bytes)]).fields ["inner"] >>= _) = _
    simp only [Document.fields_singleton, bind, Except.bind, decode_encode, Ipv4Addr.ofBytes?_bytes]

instance : LawfulSerial PortNo where
  decode_encode
    | .number n => map_decode_encode PortNo.number n
    | .inPort | .table | .normal | .flood | .all | .controller | .localPort | .any => rfl

instance : LawfulSerial GroupId where
  decode_encode group := map_decode_encode GroupId.mk group.number

/-! ### Actions -/

instance : LawfulSerial SetField where
  decode_encode
    | .ethDst value => map_decode_encode SetField.ethDst value
    | .ethSrc value => map_decode_encode SetField.ethSrc value
    | .ethType value => map_decode_encode SetField.ethType value
    | .vlanVid value => map_decode_encode SetField.vlanVid value
    | .vlanPcp value => map_decode_encode SetField.vlanPcp value
    | .mplsLabel value => map_decode_encode SetField.mplsLabel value
    | .mplsTc value => map_decode_encode SetField.mplsTc value
    | .mplsBos value => map_decode_encode SetField.mplsBos value
    | .ipDscp value => map_decode_encode SetField.ipDscp value
    | .ipEcn value => map_decode_encode SetField.ipEcn value
    | .ipProto value => map_decode_encode SetField.ipProto value
    | .ipv4Src value => map_decode_encode SetField.ipv4Src value
    | .ipv4Dst value => map_decode_encode SetField.ipv4Dst value

/-- The data of an action is a record with one field. -/
theorem Action.decodeField_record {α : Type} [Serial α] [LawfulSerial α] (name : String)
    (make : α → Action) (value : α) :
    Action.decodeField name make (.record [(name, encode value)]) = .ok (make value) := by
  rw [← map_decode_encode make value]
  simp [Action.decodeField, Document.field?]

instance : LawfulSerial Action where
  decode_encode
    | .output port => Action.decodeField_record "port" Action.output port
    | .group id => Action.decodeField_record "group_id" Action.group id
    | .setQueue queue => Action.decodeField_record "queue_id" Action.setQueue queue
    | .setMplsTtl ttl => Action.decodeField_record "ttl" Action.setMplsTtl ttl
    | .setNwTtl ttl => Action.decodeField_record "ttl" Action.setNwTtl ttl
    | .pushVlan etherType => Action.decodeField_record "ether_type" Action.pushVlan etherType
    | .pushMpls etherType => Action.decodeField_record "ether_type" Action.pushMpls etherType
    | .setField field => Action.decodeField_record "field" Action.setField field
    | .experimenter id => Action.decodeField_record "id" Action.experimenter id
    | .decMplsTtl | .decNwTtl | .copyTtlOut | .copyTtlIn | .popVlan | .popMpls => rfl

end OpenFlow
