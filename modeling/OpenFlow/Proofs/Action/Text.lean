import Mathlib.Data.List.Nodup
import OpenFlow.Document.Action
import OpenFlow.Proofs.Address.RoundTrip
import OpenFlow.Proofs.WireNumber

/-!
# Actions and their texts

The text of an action starts with the name of its slot, that of a field with the label of the
field, and an argument that comes behind stands after a mark that no name has. So a text can be cut
at its first mark: the name tells the kind of action or field, and the argument tells its value. No
two actions have the same text, and no two slots.
-/
namespace OpenFlow

namespace Text

variable {mark : Char} {name other : String} {argument argument' : Option String}

/-- A name, with an argument behind the mark if there is one. -/
def withArgument (name : String) (mark : Char) (argument : Option String) : String :=
  name ++ argument.elim "" fun value => String.singleton mark ++ value

theorem takeWhile_withArgument (free : mark ∉ name.toList) (argument : Option String) :
    (withArgument name mark argument).toList.takeWhile (· ≠ mark) = name.toList := by
  have inName : ∀ c ∈ name.toList, decide (c ≠ mark) = true := by
    intro c inside
    exact decide_eq_true fun same => free (same ▸ inside)
  rw [withArgument, String.toList_append, List.takeWhile_append_of_pos inName]
  cases argument <;> simp

/-- A text is cut at its first mark in one way. -/
theorem withArgument_inj (free : mark ∉ name.toList) (freeToo : mark ∉ other.toList) :
    withArgument name mark argument = withArgument other mark argument' ↔
      name = other ∧ argument = argument' := by
  refine ⟨fun same => ?_, by rintro ⟨rfl, rfl⟩; rfl⟩
  have names : name = other := by
    rw [← String.toList_inj, ← takeWhile_withArgument free argument, same,
      takeWhile_withArgument freeToo]
  subst names
  refine ⟨rfl, ?_⟩
  rw [← String.toList_inj, withArgument, withArgument, String.toList_append, String.toList_append,
    List.append_cancel_left_eq] at same
  cases argument <;> cases argument' <;> simp_all [String.toList_inj]

end Text

/-! ### Values -/

theorem MacAddr.text_injective : Function.Injective MacAddr.text :=
  (canonical_of_eq_text_iff MacAddr.eq_text_iff).injective

theorem Ipv4Addr.text_injective : Function.Injective Ipv4Addr.text :=
  (canonical_of_eq_text_iff Ipv4Addr.eq_text_iff).injective

namespace PortNo

theorem number_or_reserved (p : PortNo) : (∃ n, p = .number n) ∨ p ∈ reserved := by
  cases p <;> simp [reserved]

/-- The text of a reserved port is a word, and not a number. -/
theorem text_ne_repr : ∀ p ∈ reserved, ∀ n : Nat, p.text ≠ n.repr := by
  have word : ∀ p ∈ reserved, p.text.toList.all Char.isDigit = false := by decide
  intro p inside n same
  have digits : p.text.toList.all Char.isDigit = true := by
    rw [same, List.all_eq_true]
    exact fun c digit => Text.isDigit_of_mem_repr digit
  rw [word p inside] at digits
  cases digits

theorem text_injective : Function.Injective text := by
  have apart : ∀ p ∈ reserved, ∀ q ∈ reserved, p.text = q.text → p = q := by decide
  intro p q same
  obtain ⟨m, rfl⟩ | first := p.number_or_reserved
  · obtain ⟨n, rfl⟩ | second := q.number_or_reserved
    · rw [UInt32.toNat_inj.mp (Text.repr_injective same)]
    · exact absurd same.symm (text_ne_repr q second m.toNat)
  · obtain ⟨n, rfl⟩ | second := q.number_or_reserved
    · exact absurd same (text_ne_repr p first n.toNat)
    · exact apart p first q second same

end PortNo

theorem GroupId.text_injective : Function.Injective GroupId.text := fun _ _ same =>
  congrArg GroupId.mk (UInt32.toNat_inj.mp (Text.repr_injective same))

theorem EtherType.text_inj {m n : UInt16} : Text.hex 4 m.toNat = Text.hex 4 n.toNat ↔ m = n := by
  rw [Text.hex_inj m.toNat_lt n.toNat_lt, UInt16.toNat_inj]

/-! ### Fields -/

namespace FieldKind

theorem name_injective : Function.Injective name := by
  have distinct : (all.map name).Nodup := by decide
  exact fun j k same => List.inj_on_of_nodup_map distinct (mem_all j) (mem_all k) same

def label : FieldKind → String
  | .ethDst => "eth_dst"
  | .ethSrc => "eth_src"
  | .ethType => "eth_type"
  | .vlanVid => "vlan_vid"
  | .vlanPcp => "vlan_pcp"
  | .mplsLabel => "mpls_label"
  | .mplsTc => "mpls_tc"
  | .mplsBos => "mpls_bos"
  | .ipDscp => "ip_dscp"
  | .ipEcn => "ip_ecn"
  | .ipProto => "ip_proto"
  | .ipv4Src => "ipv4_src"
  | .ipv4Dst => "ipv4_dst"

theorem label_injective : Function.Injective label := by
  have distinct : (all.map label).Nodup := by decide
  exact fun j k same => List.inj_on_of_nodup_map distinct (mem_all j) (mem_all k) same

theorem not_mem_label (kind : FieldKind) : '=' ∉ kind.label.toList := by
  cases kind <;> decide

end FieldKind

namespace SetField

def valueText : SetField → String
  | .ethDst address | .ethSrc address => address.text
  | .ethType number => Text.hex 4 number.toNat
  | .vlanVid vid => vid.toNat.repr
  | .mplsLabel label => label.toNat.repr
  | .mplsBos bos => if bos then "1" else "0"
  | .vlanPcp value | .mplsTc value | .ipDscp value | .ipEcn value | .ipProto value =>
    value.toNat.repr
  | .ipv4Src address | .ipv4Dst address => address.text

theorem text_eq (field : SetField) :
    field.text = Text.withArgument field.kind.label '=' (some field.valueText) := by
  cases field <;> rfl

theorem text_injective : Function.Injective text := by
  intro field other same
  rw [text_eq, text_eq, Text.withArgument_inj field.kind.not_mem_label other.kind.not_mem_label]
    at same
  obtain ⟨labels, values⟩ := same
  have kinds := FieldKind.label_injective labels
  replace values := Option.some.inj values
  -- Fields of different kinds are out.
  cases field <;> cases other <;> try cases kinds
  case ethDst.ethDst | ethSrc.ethSrc => rw [MacAddr.text_injective values]
  case ethType.ethType => rw [EtherType.text_inj.mp values]
  case vlanVid.vlanVid => rw [UInt16.toNat_inj.mp (Text.repr_injective values)]
  case mplsLabel.mplsLabel => rw [UInt32.toNat_inj.mp (Text.repr_injective values)]
  case mplsBos.mplsBos bos other => cases bos <;> cases other <;> simp_all [valueText]
  case ipv4Src.ipv4Src | ipv4Dst.ipv4Dst => rw [Ipv4Addr.text_injective values]
  all_goals rw [UInt8.toNat_inj.mp (Text.repr_injective values)]

end SetField

/-! ### Slots and actions -/

namespace ActionSlot

def name : ActionSlot → String
  | .copyTtlIn => "copy_ttl_in"
  | .popVlan => "pop_vlan"
  | .popMpls => "pop_mpls"
  | .pushMpls => "push_mpls"
  | .pushVlan => "push_vlan"
  | .copyTtlOut => "copy_ttl_out"
  | .decMplsTtl => "dec_mpls_ttl"
  | .decNwTtl => "dec_nw_ttl"
  | .setMplsTtl => "set_mpls_ttl"
  | .setNwTtl => "set_nw_ttl"
  | .setField _ => "set_field"
  | .setQueue => "set_queue"
  | .experimenter _ => "experimenter"
  | .group => "group"
  | .output => "output"

theorem stage_eq_of_name {s t : ActionSlot} (same : s.name = t.name) : s.stage = t.stage := by
  cases s <;> cases t <;> simp_all [name, stage]

theorem not_mem_name (slot : ActionSlot) : '(' ∉ slot.name.toList ∧ ':' ∉ slot.name.toList := by
  cases slot <;> simp [name]

/-- What is shown in parentheses behind the name. -/
def detailText? : ActionSlot → Option String
  | .setField kind => some (kind.name ++ ")")
  | .experimenter id => some (id.toNat.repr ++ ")")
  | _ => none

theorem text_eq (slot : ActionSlot) :
    slot.text = Text.withArgument slot.name '(' slot.detailText? := by
  cases slot <;> rfl

theorem text_injective : Function.Injective text := by
  intro s t same
  rw [text_eq, text_eq, Text.withArgument_inj s.not_mem_name.1 t.not_mem_name.1] at same
  obtain ⟨names, details⟩ := same
  have stages := stage_eq_of_name names
  cases s <;> cases t <;> try cases stages
  case setField.setField =>
    have same := (String.append_left_inj ")").mp (Option.some.inj details)
    rw [FieldKind.name_injective same]
  case experimenter.experimenter =>
    have same := (String.append_left_inj ")").mp (Option.some.inj details)
    rw [UInt32.toNat_inj.mp (Text.repr_injective same)]
  all_goals rfl

end ActionSlot

namespace Action

def argument? : Action → Option String
  | .output port => some port.text
  | .group id => some id.text
  | .setQueue queue => some queue.toNat.repr
  | .setMplsTtl ttl | .setNwTtl ttl => some ttl.toNat.repr
  | .pushVlan etherType | .pushMpls etherType => some (Text.hex 4 etherType.toNat)
  | .setField field => some field.text
  | .experimenter id => some id.toNat.repr
  | .decMplsTtl | .decNwTtl | .copyTtlOut | .copyTtlIn | .popVlan | .popMpls => none

theorem text_eq (action : Action) :
    action.text = Text.withArgument action.slot.name ':' action.argument? := by
  cases action <;> rfl

theorem text_injective : Function.Injective text := by
  intro a b same
  rw [text_eq, text_eq, Text.withArgument_inj a.slot.not_mem_name.2 b.slot.not_mem_name.2] at same
  obtain ⟨names, arguments⟩ := same
  have stages := ActionSlot.stage_eq_of_name names
  cases a <;> cases b <;> try cases stages
  case output.output => rw [PortNo.text_injective (Option.some.inj arguments)]
  case group.group => rw [GroupId.text_injective (Option.some.inj arguments)]
  case setField.setField => rw [SetField.text_injective (Option.some.inj arguments)]
  case setQueue.setQueue | experimenter.experimenter =>
    rw [UInt32.toNat_inj.mp (Text.repr_injective (Option.some.inj arguments))]
  case setMplsTtl.setMplsTtl | setNwTtl.setNwTtl =>
    rw [UInt8.toNat_inj.mp (Text.repr_injective (Option.some.inj arguments))]
  case pushVlan.pushVlan | pushMpls.pushMpls =>
    rw [EtherType.text_inj.mp (Option.some.inj arguments)]
  all_goals rfl

end Action

/-- Actions that are shown alike are equal, whatever their ports, numbers, types and field values,
and so are slots. -/
theorem action_texts_identify :
    (∀ a b : Action, a.text = b.text ↔ a = b) ∧ ∀ s t : ActionSlot, s.text = t.text ↔ s = t :=
  ⟨fun _ _ => Action.text_injective.eq_iff, fun _ _ => ActionSlot.text_injective.eq_iff⟩

end OpenFlow
