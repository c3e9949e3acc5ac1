import OpenFlow.Proofs.Header.Encapsulation
import OpenFlow.Sample

/-!
# Writing a single field

A tag is told by its settable fields and the rest of it. A field belongs to one kind of header,
and just the tags of that kind have it, so the tag that a write finds always holds the field.
There the field takes the new value, cut to the bits it has on the wire, and all else stays:
the other fields, the rest of the tag, and the tags around it.
-/
namespace OpenFlow

/-! ### Bits of a field -/

namespace FieldMask

/-- Keeping the low bits of a number is taking a remainder. -/
theorem and_low_bits {mask bound : UInt8} (bits : Nat) (next : mask.toNat = bound.toNat - 1)
    (power : bound.toNat = 1 <<< bits) (value : UInt8) : value &&& mask = value % bound := by
  apply UInt8.toNat_inj.mp
  rw [UInt8.toNat_and, UInt8.toNat_mod, next, power, Nat.one_shiftLeft]
  exact Nat.and_two_pow_sub_one_eq_mod value.toNat bits

theorem and_vlanVid (vid : UInt16) : vid &&& vlanVid = vid % 4096 := by
  apply UInt16.toNat_inj.mp
  rw [UInt16.toNat_and, UInt16.toNat_mod]
  exact Nat.and_two_pow_sub_one_eq_mod vid.toNat 12

theorem and_vlanPcp (pcp : UInt8) : pcp &&& vlanPcp = pcp % 8 := and_low_bits 3 rfl rfl pcp

theorem and_mplsLabel (label : UInt32) : label &&& mplsLabel = label % 1048576 := by
  apply UInt32.toNat_inj.mp
  rw [UInt32.toNat_and, UInt32.toNat_mod]
  exact Nat.and_two_pow_sub_one_eq_mod label.toNat 20

theorem and_mplsTc (tc : UInt8) : tc &&& mplsTc = tc % 8 := and_low_bits 3 rfl rfl tc

theorem and_ipDscp (dscp : UInt8) : dscp &&& ipDscp = dscp % 64 := and_low_bits 6 rfl rfl dscp

theorem and_ipEcn (ecn : UInt8) : ecn &&& ipEcn = ecn % 4 := and_low_bits 2 rfl rfl ecn

end FieldMask

/-- The field with its value cut to its bits on the wire: twelve for a VLAN identifier, three for
its priority, twenty for a label, three for its traffic class, six for differentiated services
and two for congestion notification. Other values are kept whole. -/
def SetField.cut : SetField → SetField
  | .vlanVid vid => .vlanVid (vid % 4096)
  | .vlanPcp pcp => .vlanPcp (pcp % 8)
  | .mplsLabel label => .mplsLabel (label % 1048576)
  | .mplsTc tc => .mplsTc (tc % 8)
  | .ipDscp dscp => .ipDscp (dscp % 64)
  | .ipEcn ecn => .ipEcn (ecn % 4)
  | field => field

/-! ### Fields of a tag -/

namespace HeaderTag

/-- The settable fields with their values, those of an MPLS tag in its outermost label. -/
def fields : HeaderTag → List SetField
  | .ether header => [.ethDst header.dst, .ethSrc header.src, .ethType header.etherType]
  | .vlan tag => [.vlanVid tag.vid, .vlanPcp tag.pcp]
  | .mpls tag =>
    [.mplsLabel tag.outermost.label, .mplsTc tag.outermost.tc, .mplsBos tag.outermost.bos]
  | .ipv4 header =>
    [.ipDscp header.dscp, .ipEcn header.ecn, .ipProto header.proto, .ipv4Src header.src,
      .ipv4Dst header.dst]

/-- All of a tag but its settable fields. -/
def withoutFields : HeaderTag → HeaderTag
  | .ether _ => .ether default
  | .vlan tag => .vlan { tag with vid := 0, pcp := 0 }
  | .mpls tag => .mpls (tag.withOutermost { tag.outermost with label := 0, tc := 0, bos := false })
  | .ipv4 header =>
    .ipv4 { header with dscp := 0, ecn := 0, proto := 0, src := default, dst := default }

/-- A tag is told by its fields and the rest of it. -/
theorem eq_of_fields {tag other : HeaderTag} (rest : tag.withoutFields = other.withoutFields)
    (same : tag.fields = other.fields) : tag = other := by
  cases tag with
  | ether header =>
    cases other with
    | ether other =>
      cases header
      cases same
      rfl
    | _ => cases rest
  | vlan tag =>
    cases other with
    | vlan other =>
      cases tag
      cases rest
      cases same
      rfl
    | _ => cases rest
  | mpls tag =>
    cases other with
    | mpls other =>
      -- Only the outermost label is told by its fields; the inner labels are part of the rest.
      obtain ⟨etherType, ⟨label, tc, bos, ttl⟩, inner⟩ := tag
      cases rest
      cases same
      rfl
    | _ => cases rest
  | ipv4 header =>
    cases other with
    | ipv4 other =>
      cases header
      cases rest
      cases same
      rfl
    | _ => cases rest

/-- The tags that have a field are those of its owner. -/
theorem mem_kinds_fields_iff {tag : HeaderTag} {field : SetField} :
    field.kind ∈ tag.fields.map SetField.kind ↔ tag.kind = field.owner := by
  cases tag <;> cases field <;> simp [fields, kind, SetField.kind, SetField.owner, FieldKind.owner]

end HeaderTag

namespace SetField

/-- Of the two tags, the second is the first with the value of the field, cut to its bits, and
no other change. -/
structure Writes (field : SetField) (tag after : HeaderTag) : Prop where
  rest : after.withoutFields = tag.withoutFields
  fields : after.fields = tag.fields.map fun old =>
    if old.kind = field.kind then field.cut else old

/-- The writer with a case for each field, and none for tags that do not have it. -/
def write? : SetField → HeaderTag → Option HeaderTag
  | .ethDst dst, .ether header => some (.ether { header with dst })
  | .ethSrc src, .ether header => some (.ether { header with src })
  | .ethType etherType, .ether header => some (.ether { header with etherType })
  | .vlanVid vid, .vlan tag => some (.vlan { tag with vid := vid &&& FieldMask.vlanVid })
  | .vlanPcp pcp, .vlan tag => some (.vlan { tag with pcp := pcp &&& FieldMask.vlanPcp })
  | .mplsLabel label, .mpls tag =>
    some (.mpls (tag.withOutermost
      { tag.outermost with label := label &&& FieldMask.mplsLabel }))
  | .mplsTc tc, .mpls tag =>
    some (.mpls (tag.withOutermost { tag.outermost with tc := tc &&& FieldMask.mplsTc }))
  | .mplsBos bos, .mpls tag => some (.mpls (tag.withOutermost { tag.outermost with bos }))
  | .ipDscp dscp, .ipv4 header => some (.ipv4 { header with dscp := dscp &&& FieldMask.ipDscp })
  | .ipEcn ecn, .ipv4 header => some (.ipv4 { header with ecn := ecn &&& FieldMask.ipEcn })
  | .ipProto proto, .ipv4 header => some (.ipv4 { header with proto })
  | .ipv4Src src, .ipv4 header => some (.ipv4 { header with src })
  | .ipv4Dst dst, .ipv4 header => some (.ipv4 { header with dst })
  | _, _ => none

variable {field : SetField} {tag after : HeaderTag}

/-- The writer leaves a tag without the field alone, and that is its only other case. -/
theorem write_eq_getD (field : SetField) (tag : HeaderTag) :
    field.write tag = (field.write? tag).getD tag := by
  cases field <;> cases tag <;> rfl

theorem isSome_write?_iff : (field.write? tag).isSome ↔ tag.kind = field.owner := by
  cases field <;> cases tag <;> simp [write?, owner, kind, FieldKind.owner, HeaderTag.kind]

theorem write?_eq_some (own : tag.kind = field.owner) :
    field.write? tag = some (field.write tag) := by
  obtain ⟨written, returned⟩ := Option.isSome_iff_exists.mp (isSome_write?_iff.mpr own)
  rw [write_eq_getD, returned]
  rfl

theorem withoutFields_write (field : SetField) (tag : HeaderTag) :
    (field.write tag).withoutFields = tag.withoutFields := by
  cases field <;> cases tag <;> rfl

theorem fields_write (own : tag.kind = field.owner) :
    (field.write tag).fields =
      tag.fields.map fun old => if old.kind = field.kind then field.cut else old := by
  -- One case for each field; the masks are where a value is cut.
  cases field <;> cases tag <;> cases own <;>
    simp [write, writeEther, writeVlan, writeLabel, writeIpv4, HeaderTag.fields, kind, cut,
      MplsTag.withOutermost, FieldMask.and_vlanVid, FieldMask.and_vlanPcp, FieldMask.and_mplsLabel,
      FieldMask.and_mplsTc, FieldMask.and_ipDscp, FieldMask.and_ipEcn]

theorem writes_iff (own : tag.kind = field.owner) :
    field.Writes tag after ↔ after = field.write tag := by
  constructor
  · -- A written tag has the fields and the rest of what the writer returns, so it is the same.
    intro ⟨rest, fields⟩
    apply HeaderTag.eq_of_fields
    · rw [rest, withoutFields_write]
    · rw [fields, fields_write own]
  · rintro rfl
    exact ⟨withoutFields_write field tag, fields_write own⟩

end SetField

namespace HeaderStack

/-- A stack without the field's owner stays as it is. Otherwise the first tag of that kind has the
field, so one of the writer's cases applies to it; it gives way to the one tag that has the value,
cut to the bits of the field, there and is the same in all else, and no other tag changes. -/
theorem setField_writes_one_field (stack : HeaderStack) (field : SetField) :
    (field.owner ∉ stack.kinds → stack.setField field = stack) ∧
    (field.owner ∈ stack.kinds → ∃ outer tag inner written,
      stack = ⟨outer ++ tag :: inner⟩ ∧ tag.kind = field.owner ∧
      field.owner ∉ outer.map HeaderTag.kind ∧
      field.kind ∈ tag.fields.map SetField.kind ∧ field.write? tag = some written ∧
      stack.setField field = ⟨outer ++ written :: inner⟩ ∧ written.kind = tag.kind ∧
      ∀ after, field.Writes tag after ↔ after = written) := by
  rw [setField_eq_editFirst]
  constructor
  · intro lacks
    exact editFirst_of_lacks lacks _
  · intro present
    obtain lacks | ⟨outer, tag, inner, rfl, own, first⟩ := stack.lacks_or_first field.owner
    · exact absurd present lacks
    · exact ⟨outer, tag, inner, field.write tag, rfl, own, first,
        HeaderTag.mem_kinds_fields_iff.mpr own, SetField.write?_eq_some own,
        replace_first first own field.write, field.kind_write tag,
        fun after => SetField.writes_iff own⟩

/-- The first of two MPLS tags is written, in the outermost of its labels and with three bits of
the value; there is no VLAN tag to write. -/
theorem setField_writes_one_field_oversized :
    let labels (tc : UInt8) : HeaderTag :=
      .mpls ⟨EtherType.mpls, ⟨7, tc, false, 9⟩, [⟨8, 1, true, 9⟩]⟩
    let stack (tc : UInt8) : HeaderStack := ⟨[Sample.ether, labels tc, Sample.ipv4 3, labels 2]⟩
    let field : SetField := .mplsTc 0xFD
    field.owner ∈ (stack 1).kinds ∧
    (∃ outer tag inner written, stack 1 = ⟨outer ++ tag :: inner⟩ ∧
      stack 5 = ⟨outer ++ written :: inner⟩ ∧ field.write? tag = some written ∧
      field.Writes tag written) ∧
    SetField.owner (.vlanVid 7) ∉ (stack 1).kinds ∧ (stack 1).setField (.vlanVid 7) = stack 1 := by
  intro labels stack field
  have present : field.owner ∈ (stack 1).kinds := by decide
  have lacks : SetField.owner (.vlanVid 7) ∉ (stack 1).kinds := by decide
  have set : (stack 1).setField field = stack 5 := rfl
  obtain ⟨outer, tag, inner, written, split, -, -, -, applies, replaced, -, writes⟩ :=
    (setField_writes_one_field (stack 1) field).2 present
  exact ⟨present,
    ⟨outer, tag, inner, written, split, set.symm.trans replaced, applies, (writes written).mpr rfl⟩,
    lacks, (setField_writes_one_field (stack 1) (.vlanVid 7)).1 lacks⟩

end HeaderStack

end OpenFlow
