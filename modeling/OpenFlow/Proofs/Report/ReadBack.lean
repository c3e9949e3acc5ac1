import OpenFlow.Proofs.Action.Text
import OpenFlow.Proofs.Report.Layout
import OpenFlow.Proofs.Text.WrittenOctet

/-!
# Tables read back

The texts of numbers, addresses, kinds, slots and actions have no blanks in them, and the fields of
a tag are such texts with single blanks between them. So every cell of a table is read as it was
written: an entry for each tag of a stack or action of a set, none skipped and none out of order.
-/
namespace OpenFlow

open Text

/-! ### Texts without blanks -/

theorem Text.isDigit_of_isWhitespace {c : Char} (white : c.isWhitespace = true) :
    c.isDigit = false := by
  simp only [Char.isWhitespace, Bool.or_eq_true, decide_eq_true_eq] at white
  rcases white with ((rfl | rfl) | rfl) | rfl <;> decide

theorem Text.isWord_repr (n : Nat) : IsWord n.repr := by
  refine ⟨Nat.repr_ne_empty, fun c inside => Bool.eq_false_iff.mpr fun white => ?_⟩
  have digit := isDigit_of_mem_repr inside
  rw [isDigit_of_isWhitespace white] at digit
  cases digit

theorem Text.unspaced_hex (width n : Nat) : Unspaced (hex width n) := by
  have plain : upperDigits.all fun c => !c.isWhitespace := by decide
  intro c inside
  rw [toList_hex] at inside
  simpa using List.all_eq_true.mp plain c (mem_upperDigits_of_mem_hexDigits inside)

theorem MacAddr.unspaced_text (address : MacAddr) : Unspaced address.text := by
  refine Unspaced.intercalate (by decide) (List.forall_mem_map.mpr fun byte _ => ?_)
  exact unspaced_hex 2 byte.toNat

theorem Ipv4Addr.unspaced_text (address : Ipv4Addr) : Unspaced address.text := by
  refine Unspaced.intercalate (by decide) (List.forall_mem_map.mpr fun byte _ => ?_)
  exact (isWord_repr byte.toNat).unspaced

theorem PortNo.unspaced_text (port : PortNo) : Unspaced port.text := by
  cases port with
  | number n => exact (isWord_repr n.toNat).unspaced
  | _ => decide

theorem HeaderKind.isWord_text (kind : HeaderKind) : IsWord kind.text := by
  cases kind <;> decide

theorem Text.IsWord.withArgument {name : String} {mark : Char} {argument : Option String}
    (word : IsWord name) (plain : mark.isWhitespace = false)
    (unspaced : ∀ value ∈ argument, Unspaced value) : IsWord (withArgument name mark argument) := by
  refine word.append ?_
  cases argument with
  | none => exact (by decide : Unspaced "")
  | some value =>
    have marked : Unspaced (String.singleton mark) := by simpa [Unspaced] using plain
    exact marked.append (unspaced value rfl)

theorem FieldKind.isWord_label (kind : FieldKind) : IsWord kind.label := by
  cases kind <;> decide

theorem SetField.unspaced_text (field : SetField) : Unspaced field.text := by
  rw [SetField.text_eq]
  refine (field.kind.isWord_label.withArgument rfl fun value shown => ?_).unspaced
  rw [← Option.some.inj shown]
  cases field
  case ethDst address | ethSrc address => exact address.unspaced_text
  case ipv4Src address | ipv4Dst address => exact address.unspaced_text
  case ethType number => exact unspaced_hex 4 number.toNat
  case mplsBos bos => cases bos <;> decide
  all_goals exact (isWord_repr _).unspaced

theorem ActionSlot.isWord_name (slot : ActionSlot) : IsWord slot.name := by
  cases slot with
  | setField kind => exact (by decide : IsWord "set_field")
  | experimenter id => exact (by decide : IsWord "experimenter")
  | _ => decide

theorem ActionSlot.isWord_text (slot : ActionSlot) : IsWord slot.text := by
  rw [ActionSlot.text_eq]
  refine slot.isWord_name.withArgument rfl fun value shown => ?_
  cases slot
  case setField kind =>
    cases shown
    cases kind <;> decide
  case experimenter id =>
    cases shown
    exact (isWord_repr id.toNat).unspaced.append (by decide)
  all_goals cases shown

theorem Action.isWord_text (action : Action) : IsWord action.text := by
  rw [Action.text_eq]
  refine action.slot.isWord_name.withArgument rfl fun value shown => ?_
  cases action <;> cases shown
  case output port => exact port.unspaced_text
  case setField field => exact field.unspaced_text
  case pushVlan etherType | pushMpls etherType => exact unspaced_hex 4 etherType.toNat
  all_goals exact (isWord_repr _).unspaced

namespace Report

theorem unspaced_labelText (entry : LabelEntry) : Unspaced (labelText entry) := by
  have numbers : ∀ n : Nat, Unspaced n.repr := fun n => (isWord_repr n).unspaced
  have bottom : Unspaced (if entry.bos then "/bos" else "") := by cases entry.bos <;> decide
  exact (((((numbers _).append (by decide)).append (numbers _)).append (by decide)).append
    (numbers _)).append bottom

theorem ttlText_eq (ttl? : Option UInt8) :
    ttlText ttl? = ttl?.elim "-" fun ttl => ttl.toNat.repr := by
  cases ttl? <;> rfl

theorem isWord_ttlText (ttl? : Option UInt8) : IsWord (ttlText ttl?) := by
  cases ttl? with
  | none => decide
  | some ttl => exact isWord_repr ttl.toNat

theorem isPhrase_fieldsText (tag : HeaderTag) : IsPhrase (fieldsText tag) := by
  have numbers : ∀ n : Nat, Unspaced n.repr := fun n => (isWord_repr n).unspaced
  have labelled : ∀ (label : String) {value : String}, IsWord label → Unspaced value →
      IsPhrase (label ++ value) := fun _ _ word unspaced => .word (word.append unspaced)
  cases tag with
  | ether header =>
    have dst := labelled "dst=" (by decide) header.dst.unspaced_text
    have src := dst.labelled "src=" (by decide) header.src.unspaced_text
    exact src.labelled "type=" (by decide) (unspaced_hex 4 header.etherType.toNat)
  | vlan tag =>
    have vid := labelled "vid=" (by decide) (numbers tag.vid.toNat)
    have pcp := vid.labelled "pcp=" (by decide) (numbers tag.pcp.toNat)
    exact pcp.labelled "type=" (by decide) (unspaced_hex 4 tag.etherType.toNat)
  | mpls tag =>
    have entries : Unspaced (",".intercalate (tag.entries.map labelText)) :=
      .intercalate (by decide) (List.forall_mem_map.mpr fun entry _ => unspaced_labelText entry)
    have etherType := labelled "type=" (by decide) (unspaced_hex 4 tag.etherType.toNat)
    exact (etherType.labelled "labels=[" (by decide) entries).append (by decide)
  | ipv4 header =>
    have src := labelled "src=" (by decide) header.src.unspaced_text
    have dst := src.labelled "dst=" (by decide) header.dst.unspaced_text
    have proto := dst.labelled "proto=" (by decide) (numbers header.proto.toNat)
    have dscp := proto.labelled "dscp=" (by decide) (numbers header.dscp.toNat)
    exact dscp.labelled "ecn=" (by decide) (numbers header.ecn.toNat)

/-! ### Tables -/

theorem isPhrases_headerLine (index : Nat) (tag : HeaderTag) :
    (headerLine index tag).IsPhrases where
  cells := by
    simp only [headerLine, List.forall_mem_cons]
    exact ⟨.word (isWord_repr index), .word tag.kind.isWord_text, .word (isWord_ttlText tag.ttl?),
      by simp⟩
  last := isPhrase_fieldsText tag

theorem isPhrases_actionLine (action : Action) : (actionLine action).IsPhrases where
  cells := List.forall_mem_singleton.mpr (.word action.slot.isWord_text)
  last := .word action.isWord_text

theorem tabular_headers (stack : HeaderStack) :
    Tabular "Headers" ⟨["IDX", "KIND", "TTL"], "FIELDS"⟩ (stack.tags.mapIdx headerLine) where
  oneLine := by decide
  titlePhrases := by
    have words : ∀ title ∈ ["IDX", "KIND", "TTL"], IsWord title := by decide
    exact ⟨fun title inside => .word (words title inside), .word (by decide)⟩
  entryPhrases entry inside := by
    obtain ⟨index, bound, rfl⟩ := List.mem_mapIdx.mp inside
    exact isPhrases_headerLine index _
  sameCount entry inside := by
    obtain ⟨index, bound, rfl⟩ := List.mem_mapIdx.mp inside
    rfl

theorem tabular_actionSet (set : ActionSet) :
    Tabular "Action Set" ⟨["SLOT"], "ACTION"⟩ (set.toList.map actionLine) where
  oneLine := by decide
  titlePhrases := ⟨List.forall_mem_singleton.mpr (.word (by decide)), .word (by decide)⟩
  entryPhrases := List.forall_mem_map.mpr fun action _ => isPhrases_actionLine action
  sameCount := List.forall_mem_map.mpr fun _ _ => rfl

/-- A printed stack has four lines and one for each tag, in their order, and each of these is read
as the position of the tag, its kind, its time to live or a dash, and its fields. A printed set has
four lines and one for each action, in the order of their slots, and each of these is read as the
slot and the action. Either text is its lines, each with a line break behind it. -/
theorem printed_tables_read_back :
    (∀ stack : HeaderStack,
      String.join ((lines (headers stack)).map fun line => line ++ "\n") = headers stack ∧
      (lines (headers stack)).length = stack.size + 4 ∧
      (entryLines (headers stack)).map cellTexts = stack.tags.mapIdx fun index tag =>
        [index.repr, tag.kind.text, tag.ttl?.elim "-" fun ttl => ttl.toNat.repr, fieldsText tag]) ∧
    ∀ set : ActionSet,
      String.join ((lines (actionSet set)).map fun line => line ++ "\n") = actionSet set ∧
      (lines (actionSet set)).length = set.size + 4 ∧
      (entryLines (actionSet set)).map cellTexts =
        set.toList.map (fun action => [action.slot.text, action.text]) ∧
      set.slots.Pairwise (· < ·) := by
  constructor
  · intro stack
    have tabular := tabular_headers stack
    refine ⟨join_lines_layOut tabular, ?_, ?_⟩
    · exact (length_lines_layOut tabular).trans (length_headerLines stack)
    · rw [headers, headerLines, cellTexts_entries tabular]
      simp only [List.mapIdx_eq_zipIdx_map, List.map_map, ← ttlText_eq]
      rfl
  · intro set
    have tabular := tabular_actionSet set
    refine ⟨join_lines_layOut tabular, ?_, ?_, List.pairwise_map.mpr set.sorted⟩
    · exact (length_lines_layOut tabular).trans (length_actionSetLines set)
    · rw [actionSet, actionSetLines, cellTexts_entries tabular, List.map_map]
      rfl

end Report

end OpenFlow
