import Mathlib.Data.List.Nodup
import OpenFlow.Proofs.Document.RoundTrip
import OpenFlow.Proofs.Header.LabelStacks
import OpenFlow.Proofs.Text.OctetNumeral

/-!
# Header documents read back

The form of a document is told apart from reading it: a number is there as it is, a structure is a
record with an entry for each of its fields, and a tag is a record with the name of its kind for
the only entry. In a document of this form an MPLS tag may have any list of labels. A document that
a header stack is written as has the form, and every document of the form is read as the stack that
it holds, unless an MPLS tag in it has no label.
-/
namespace OpenFlow

/-! ### Forms of documents -/

/-- The document has the form of the type and holds the value. -/
class DocumentForm (α : Type) where
  Describes : Document → α → Prop

export DocumentForm (Describes)

/-- A value is written in the form of its type, and is read from any document that holds it. -/
class LawfulForm (α : Type) [Serial α] [DocumentForm α] : Prop where
  describes_encode (value : α) : Describes (encode value) value
  decode_of_describes {document : Document} {value : α} (held : Describes document value) :
    decode document = .ok value

open LawfulForm (describes_encode decode_of_describes)

namespace Document

/-- A record has the entry, at any place and among any others, and no name stands in it twice. -/
def HasEntry (document : Document) (name : String) (data : Document) : Prop :=
  ∃ fields, document = .record fields ∧ (fields.map Prod.fst).Nodup ∧ (name, data) ∈ fields

/-- The entry of the name holds the value. -/
def HasField {α : Type} [DocumentForm α] (document : Document) (name : String) (value : α) :
    Prop :=
  ∃ data, document.HasEntry name data ∧ Describes data value

variable {document : Document} {name : String} {data : Document}

theorem lookup_of_mem {fields : List (String × Document)}
    (single : (fields.map Prod.fst).Nodup) (member : (name, data) ∈ fields) :
    fields.lookup name = some data := by
  obtain ⟨before, after, rfl⟩ := List.append_of_mem member
  rw [List.map_append, List.map_cons, List.nodup_middle, List.nodup_cons] at single
  refine List.lookup_eq_some_iff.mpr ⟨before, after, rfl, fun entry inside => ?_⟩
  have other : name ≠ entry.1 := by
    rintro rfl
    exact single.1 (List.mem_append_left _ (List.mem_map.mpr ⟨entry, inside, rfl⟩))
  exact bne_iff_ne.mpr other

theorem HasEntry.fields_nil (entry : document.HasEntry name data) :
    document.fields [] = .ok [] := by
  obtain ⟨fields, rfl, -, -⟩ := entry
  rfl

theorem HasEntry.fields_cons {names : List String} {others : List Document}
    (entry : document.HasEntry name data) (found : document.fields names = .ok others) :
    document.fields (name :: names) = .ok (data :: others) := by
  obtain ⟨fields, rfl, single, member⟩ := entry
  rw [Document.fields] at found
  rw [Document.fields, List.mapM_cons, lookup_of_mem single member, found]
  rfl

theorem hasField_of_mem {α : Type} [DocumentForm α] {fields : List (String × Document)} {value : α}
    (single : (fields.map Prod.fst).Nodup) (member : (name, data) ∈ fields)
    (held : Describes data value) : (Document.record fields).HasField name value :=
  ⟨data, ⟨fields, rfl, single, member⟩, held⟩

end Document

/-! ### Numbers and lists -/

instance : DocumentForm UInt8 := ⟨fun document n => document = .int n.toNat⟩

instance : DocumentForm UInt16 := ⟨fun document n => document = .int n.toNat⟩

instance : DocumentForm UInt32 := ⟨fun document n => document = .int n.toNat⟩

instance : DocumentForm Bool := ⟨fun document value => document = .bool value⟩

instance {α : Type} [DocumentForm α] : DocumentForm (List α) where
  Describes document values :=
    ∃ items, document = .list items ∧ List.Forall₂ Describes items values

/-- Only one document holds the value: the one that is written. -/
theorem lawfulForm_of_iff {α : Type} [Serial α] [DocumentForm α] [LawfulSerial α]
    (written : ∀ document (value : α), Describes document value ↔ document = encode value) :
    LawfulForm α where
  describes_encode value := (written _ value).mpr rfl
  decode_of_describes {document value} held := by
    rw [(written document value).mp held, LawfulSerial.decode_encode]

instance : LawfulForm UInt8 := lawfulForm_of_iff fun _ _ => Iff.rfl

instance : LawfulForm UInt16 := lawfulForm_of_iff fun _ _ => Iff.rfl

instance : LawfulForm UInt32 := lawfulForm_of_iff fun _ _ => Iff.rfl

instance : LawfulForm Bool := lawfulForm_of_iff fun _ _ => Iff.rfl

instance {α : Type} [Serial α] [DocumentForm α] [LawfulForm α] : LawfulForm (List α) where
  describes_encode values := by
    refine ⟨values.map encode, rfl, ?_⟩
    rw [List.forall₂_map_left_iff, List.forall₂_same]
    exact fun value _ => describes_encode value
  decode_of_describes {document values} held := by
    obtain ⟨items, rfl, each⟩ := held
    exact Text.mapM_eq_ok_iff.mpr (each.imp fun _ _ => decode_of_describes)

/-! ### Headers -/

instance : DocumentForm MacAddr where
  Describes document address := document.HasField "inner" address.bytes

instance : LawfulForm MacAddr where
  describes_encode address :=
    Document.hasField_of_mem (List.nodup_singleton _) (List.mem_singleton_self _)
      (describes_encode address.bytes)
  decode_of_describes {document address} held := by
    obtain ⟨inner, entry, octets⟩ := held
    have found := entry.fields_cons entry.fields_nil
    change (document.fields ["inner"] >>= _) = _
    simp only [found, bind, Except.bind, decode_of_describes octets, MacAddr.ofBytes?_bytes]

instance : DocumentForm Ipv4Addr where
  Describes document address := document.HasField "inner" address.bytes

instance : LawfulForm Ipv4Addr where
  describes_encode address :=
    Document.hasField_of_mem (List.nodup_singleton _) (List.mem_singleton_self _)
      (describes_encode address.bytes)
  decode_of_describes {document address} held := by
    obtain ⟨inner, entry, octets⟩ := held
    have found := entry.fields_cons entry.fields_nil
    change (document.fields ["inner"] >>= _) = _
    simp only [found, bind, Except.bind, decode_of_describes octets, Ipv4Addr.ofBytes?_bytes]

instance : DocumentForm EtherHeader where
  Describes document header :=
    document.HasField "dst" header.dst ∧ document.HasField "src" header.src ∧
      document.HasField "ether_type" header.etherType

instance : LawfulForm EtherHeader where
  describes_encode header := by
    have single : ["dst", "src", "ether_type"].Nodup := by decide
    refine ⟨?_, ?_, ?_⟩ <;> exact Document.hasField_of_mem single (by simp) (describes_encode _)
  decode_of_describes {document header} held := by
    obtain ⟨⟨dst, dstEntry, dstHeld⟩, ⟨src, srcEntry, srcHeld⟩, type, typeEntry, typeHeld⟩ := held
    have found := dstEntry.fields_cons (srcEntry.fields_cons (typeEntry.fields_cons
      typeEntry.fields_nil))
    change (document.fields ["dst", "src", "ether_type"] >>= _) = _
    simp only [found, bind, Except.bind, decode_of_describes dstHeld, decode_of_describes srcHeld,
      decode_of_describes typeHeld, pure, Except.pure]

instance : DocumentForm VlanTag where
  Describes document tag :=
    document.HasField "pcp" tag.pcp ∧ document.HasField "vid" tag.vid ∧
      document.HasField "ether_type" tag.etherType

instance : LawfulForm VlanTag where
  describes_encode tag := by
    have single : ["pcp", "vid", "ether_type"].Nodup := by decide
    refine ⟨?_, ?_, ?_⟩ <;> exact Document.hasField_of_mem single (by simp) (describes_encode _)
  decode_of_describes {document tag} held := by
    obtain ⟨⟨pcp, pcpEntry, pcpHeld⟩, ⟨vid, vidEntry, vidHeld⟩, type, typeEntry, typeHeld⟩ := held
    have found := pcpEntry.fields_cons (vidEntry.fields_cons (typeEntry.fields_cons
      typeEntry.fields_nil))
    change (document.fields ["pcp", "vid", "ether_type"] >>= _) = _
    simp only [found, bind, Except.bind, decode_of_describes pcpHeld, decode_of_describes vidHeld,
      decode_of_describes typeHeld, pure, Except.pure]

instance : DocumentForm LabelEntry where
  Describes document entry :=
    document.HasField "label" entry.label ∧ document.HasField "tc" entry.tc ∧
      document.HasField "bos" entry.bos ∧ document.HasField "ttl" entry.ttl

instance : LawfulForm LabelEntry where
  describes_encode entry := by
    have single : ["label", "tc", "bos", "ttl"].Nodup := by decide
    refine ⟨?_, ?_, ?_, ?_⟩ <;> exact Document.hasField_of_mem single (by simp) (describes_encode _)
  decode_of_describes {document entry} held := by
    obtain ⟨⟨label, labelEntry, labelHeld⟩, ⟨tc, tcEntry, tcHeld⟩, ⟨bos, bosEntry, bosHeld⟩,
      ttl, ttlEntry, ttlHeld⟩ := held
    have found := labelEntry.fields_cons (tcEntry.fields_cons (bosEntry.fields_cons
      (ttlEntry.fields_cons ttlEntry.fields_nil)))
    change (document.fields ["label", "tc", "bos", "ttl"] >>= _) = _
    simp only [found, bind, Except.bind, decode_of_describes labelHeld, decode_of_describes tcHeld,
      decode_of_describes bosHeld, decode_of_describes ttlHeld, pure, Except.pure]

instance : DocumentForm Ipv4Header where
  Describes document header :=
    document.HasField "dscp" header.dscp ∧ document.HasField "ecn" header.ecn ∧
      document.HasField "proto" header.proto ∧ document.HasField "src" header.src ∧
      document.HasField "dst" header.dst ∧ document.HasField "ttl" header.ttl

instance : LawfulForm Ipv4Header where
  describes_encode header := by
    have single : ["dscp", "ecn", "proto", "src", "dst", "ttl"].Nodup := by decide
    refine ⟨?_, ?_, ?_, ?_, ?_, ?_⟩ <;>
      exact Document.hasField_of_mem single (by simp) (describes_encode _)
  decode_of_describes {document header} held := by
    obtain ⟨⟨dscp, dscpEntry, dscpHeld⟩, ⟨ecn, ecnEntry, ecnHeld⟩, ⟨proto, protoEntry, protoHeld⟩,
      ⟨src, srcEntry, srcHeld⟩, ⟨dst, dstEntry, dstHeld⟩, ttl, ttlEntry, ttlHeld⟩ := held
    have found := dscpEntry.fields_cons (ecnEntry.fields_cons (protoEntry.fields_cons
      (srcEntry.fields_cons (dstEntry.fields_cons (ttlEntry.fields_cons ttlEntry.fields_nil)))))
    change (document.fields ["dscp", "ecn", "proto", "src", "dst", "ttl"] >>= _) = _
    simp only [found, bind, Except.bind, decode_of_describes dscpHeld, decode_of_describes ecnHeld,
      decode_of_describes protoHeld, decode_of_describes srcHeld, decode_of_describes dstHeld,
      decode_of_describes ttlHeld, pure, Except.pure]

/-! ### Tags with any list of labels -/

instance : DocumentForm RawMpls where
  Describes document tag :=
    document.HasField "ether_type" tag.etherType ∧ document.HasField "stack" tag.labels

instance : DocumentForm RawTag where
  Describes
    | document, .ether header => ∃ data, document = .variant "Ether" data ∧ Describes data header
    | document, .vlan tag => ∃ data, document = .variant "Vlan" data ∧ Describes data tag
    | document, .mpls tag => ∃ data, document = .variant "Mpls" data ∧ Describes data tag
    | document, .ipv4 header => ∃ data, document = .variant "Ipv4" data ∧ Describes data header

variable {document : Document}

theorem decode_mpls_of_describes {raw : RawMpls} (held : Describes document raw) :
    (decode document : Except DocumentError MplsTag) =
      (MplsTag.ofEntries? raw.etherType raw.labels).elim (.error .emptyLabelStack) .ok := by
  obtain ⟨⟨type, typeEntry, typeHeld⟩, labels, labelsEntry, labelsHeld⟩ := held
  have found := typeEntry.fields_cons (labelsEntry.fields_cons labelsEntry.fields_nil)
  change (document.fields ["ether_type", "stack"] >>= _) = _
  simp only [found, bind, Except.bind, decode_of_describes typeHeld, decode_of_describes labelsHeld]
  cases MplsTag.ofEntries? raw.etherType raw.labels <;> rfl

/-- A tag is read as it is there, unless it is an MPLS tag without labels. -/
theorem decode_tag_of_describes {raw : RawTag} (held : Describes document raw) :
    (∃ tag : HeaderTag, tag.raw = raw ∧ decode document = .ok tag) ∨
    (∃ etherType, raw = .mpls ⟨etherType, []⟩) ∧
      (decode document : Except DocumentError HeaderTag) = .error .emptyLabelStack := by
  cases raw with
  | ether header =>
    obtain ⟨data, rfl, held⟩ := held
    refine .inl ⟨.ether header, rfl, ?_⟩
    change (decode data).map HeaderTag.ether = _
    rw [decode_of_describes held, Except.map]
  | vlan tag =>
    obtain ⟨data, rfl, held⟩ := held
    refine .inl ⟨.vlan tag, rfl, ?_⟩
    change (decode data).map HeaderTag.vlan = _
    rw [decode_of_describes held, Except.map]
  | mpls tag =>
    obtain ⟨data, rfl, held⟩ := held
    have read : (decode (Document.variant "Mpls" data) : Except _ HeaderTag) =
        (decode data).map HeaderTag.mpls := rfl
    rw [decode_mpls_of_describes held] at read
    obtain ⟨etherType, _ | ⟨outermost, inner⟩⟩ := tag
    · exact .inr ⟨⟨etherType, rfl⟩, read⟩
    · exact .inl ⟨.mpls ⟨etherType, outermost, inner⟩, rfl, read⟩
  | ipv4 header =>
    obtain ⟨data, rfl, held⟩ := held
    refine .inl ⟨.ipv4 header, rfl, ?_⟩
    change (decode data).map HeaderTag.ipv4 = _
    rw [decode_of_describes held, Except.map]

theorem describes_encode_mpls (tag : MplsTag) : Describes (encode tag) tag.raw := by
  have single : ["ether_type", "stack"].Nodup := by decide
  exact ⟨Document.hasField_of_mem single (by simp) (describes_encode tag.etherType),
    Document.hasField_of_mem single (by simp) (describes_encode tag.entries)⟩

theorem describes_encode_tag (tag : HeaderTag) : Describes (encode tag) tag.raw := by
  cases tag with
  | ether header => exact ⟨encode header, rfl, describes_encode header⟩
  | vlan tag => exact ⟨encode tag, rfl, describes_encode tag⟩
  | mpls tag => exact ⟨encode tag, rfl, describes_encode_mpls tag⟩
  | ipv4 header => exact ⟨encode header, rfl, describes_encode header⟩

/-! ### Stacks -/

theorem RawStack.labelled_cons {tag : RawTag} {rest : RawStack} :
    RawStack.Labelled (tag :: rest) ↔
      (∀ etherType, tag ≠ .mpls ⟨etherType, []⟩) ∧ rest.Labelled := by
  constructor
  · intro labelled
    refine ⟨?_, fun tag inside => labelled tag (List.mem_cons_of_mem _ inside)⟩
    rintro etherType rfl
    exact labelled _ List.mem_cons_self rfl
  · rintro ⟨first, labelled⟩ tag member
    rcases List.mem_cons.mp member with rfl | inside
    · obtain ⟨etherType, _ | ⟨outermost, inner⟩⟩ := tag
      · exact absurd rfl (first etherType)
      · exact List.cons_ne_nil outermost inner
    · exact labelled tag inside

/-- Tags are read one after another up to the first that has no labels. -/
theorem decode_tags_of_describes {items : List Document} {raw : RawStack}
    (held : List.Forall₂ Describes items raw) :
    (raw.Labelled ∧ ∃ tags : List HeaderTag, tags.map HeaderTag.raw = raw ∧
      (items.mapM decode : Except DocumentError (List HeaderTag)) = .ok tags) ∨
    ¬ raw.Labelled ∧
      (items.mapM decode : Except DocumentError (List HeaderTag)) = .error .emptyLabelStack := by
  induction held with
  | nil => exact .inl ⟨fun _ member => (nomatch member), [], rfl, rfl⟩
  | @cons item tag items rest first _ ih =>
    rw [List.mapM_cons, RawStack.labelled_cons]
    obtain ⟨header, rfl, read⟩ | ⟨⟨etherType, rfl⟩, read⟩ := decode_tag_of_describes first
    · have labelled : ∀ etherType, header.raw ≠ .mpls ⟨etherType, []⟩ := by
        intro etherType
        cases header <;> simp [HeaderTag.raw, MplsTag.raw, MplsTag.entries]
      obtain ⟨others, headers, rfl, readRest⟩ | ⟨unlabelled, readRest⟩ := ih
      · exact .inl ⟨⟨labelled, others⟩, header :: headers, rfl, by rw [read, readRest]; rfl⟩
      · exact .inr ⟨fun both => unlabelled both.2, by rw [read, readRest]; rfl⟩
    · exact .inr ⟨fun both => both.1 etherType rfl, by rw [read]; rfl⟩

theorem MplsTag.raw_injective : Function.Injective MplsTag.raw := by
  rintro ⟨etherType, outermost, inner⟩ ⟨_, _, _⟩ same
  cases same
  rfl

theorem HeaderTag.raw_injective : Function.Injective HeaderTag.raw := by
  intro tag other same
  cases tag <;> cases other <;> simp_all [HeaderTag.raw, MplsTag.raw_injective.eq_iff]

theorem HeaderStack.eq_of_raw {stack other : HeaderStack} (same : stack.raw = other.raw) :
    stack = other := by
  obtain ⟨tags⟩ := stack
  obtain ⟨others⟩ := other
  exact congrArg HeaderStack.mk (HeaderTag.raw_injective.list_map same)

theorem hasField_encode_stack (stack : HeaderStack) :
    (encode stack).HasField "tags" stack.raw := by
  refine Document.hasField_of_mem (List.nodup_singleton _) (List.mem_singleton_self _) ⟨_, rfl, ?_⟩
  rw [HeaderStack.raw, List.forall₂_map_left_iff, List.forall₂_map_right_iff, List.forall₂_same]
  exact fun tag _ => describes_encode_tag tag

theorem decode_stack_of_hasField {raw : RawStack} (held : document.HasField "tags" raw) :
    (raw.Labelled ∧ ∃ stack : HeaderStack, stack.raw = raw ∧ decode document = .ok stack) ∨
    ¬ raw.Labelled ∧
      (decode document : Except DocumentError HeaderStack) = .error .emptyLabelStack := by
  obtain ⟨_, entry, items, rfl, each⟩ := held
  have found := entry.fields_cons entry.fields_nil
  have read : (decode document : Except DocumentError HeaderStack) =
      (items.mapM decode).map HeaderStack.mk := by
    change (document.fields ["tags"] >>= _) = _
    rw [found]
    rfl
  rw [read]
  obtain ⟨labelled, tags, same, readTags⟩ | ⟨unlabelled, readTags⟩ := decode_tags_of_describes each
  · exact .inl ⟨labelled, ⟨tags⟩, same, by rw [readTags]; rfl⟩
  · exact .inr ⟨unlabelled, by rw [readTags]; rfl⟩

/-- A header stack is written in a document of the form and read back from it. A document of the
form is refused as a whole when some MPLS tag in it has no label; any other is read as the stack
with just the tags, labels and fields that it holds, in their order and of any width. -/
theorem header_documents_read_back :
    (∀ stack : HeaderStack,
      (encode stack).HasField "tags" stack.raw ∧ decode (encode stack) = .ok stack) ∧
    ∀ (document : Document) (raw : RawStack), document.HasField "tags" raw →
      ((∃ tag, RawTag.mpls tag ∈ raw ∧ tag.labels = []) →
        (decode document : Except DocumentError HeaderStack) = .error .emptyLabelStack) ∧
      ((∀ tag, RawTag.mpls tag ∈ raw → tag.labels ≠ []) →
        ∃ stack : HeaderStack, decode document = .ok stack ∧ stack.raw = raw) := by
  refine ⟨fun stack => ?_, fun document raw held => ?_⟩
  · have held := hasField_encode_stack stack
    refine ⟨held, ?_⟩
    obtain ⟨-, other, same, read⟩ | ⟨unlabelled, -⟩ := decode_stack_of_hasField held
    · rw [read, HeaderStack.eq_of_raw same]
    · exact absurd (RawStack.built_raw stack).labelled unlabelled
  · obtain ⟨labelled, stack, same, read⟩ | ⟨unlabelled, read⟩ := decode_stack_of_hasField held
    · refine ⟨?_, fun _ => ⟨stack, read, same⟩⟩
      rintro ⟨tag, member, empty⟩
      exact absurd empty (labelled tag member)
    · exact ⟨fun _ => read, fun labelled => absurd labelled unlabelled⟩

/-- The fields stand in another order, beside one of another name, and are wider than on the wire.
Without the label the whole document is refused. -/
theorem header_documents_read_back_inner_tag_without_labels :
    let vlan := Document.variant "Vlan" (.record
      [("vid", .int 65535), ("note", .null), ("ether_type", .int 33024), ("pcp", .int 255)])
    let label := Document.record
      [("ttl", .int 9), ("bos", .bool true), ("tc", .int 8), ("label", .int 1048576)]
    let document := fun labels => Document.record [("tags", .list
      [vlan, .variant "Mpls" (.record [("stack", .list labels), ("ether_type", .int 34887)])])]
    (decode (document []) : Except DocumentError HeaderStack) = .error .emptyLabelStack ∧
    ∃ stack : HeaderStack, decode (document [label]) = .ok stack ∧
      stack.raw = [.vlan ⟨255, 65535, 33024⟩, .mpls ⟨34887, [⟨1048576, 8, true, 9⟩]⟩] := by
  intro vlan label document
  have held : ∀ {labels : List Document} {entries : List LabelEntry},
      List.Forall₂ Describes labels entries → (document labels).HasField "tags"
        ([.vlan ⟨255, 65535, 33024⟩, .mpls ⟨34887, entries⟩] : RawStack) := by
    intro labels entries each
    have vlanNames : ["vid", "note", "ether_type", "pcp"].Nodup := by decide
    have mplsNames : ["stack", "ether_type"].Nodup := by decide
    refine Document.hasField_of_mem (List.nodup_singleton _) (List.mem_singleton_self _)
      ⟨_, rfl, .cons ⟨_, rfl, ?_, ?_, ?_⟩ (.cons ⟨_, rfl, ?_, ?_⟩ .nil)⟩
    · exact Document.hasField_of_mem vlanNames (by simp) rfl
    · exact Document.hasField_of_mem vlanNames (by simp) rfl
    · exact Document.hasField_of_mem vlanNames (by simp) rfl
    · exact Document.hasField_of_mem mplsNames (by simp) rfl
    · exact Document.hasField_of_mem mplsNames (by simp) ⟨labels, rfl, each⟩
  have labelHeld : Describes label (⟨1048576, 8, true, 9⟩ : LabelEntry) := by
    have names : ["ttl", "bos", "tc", "label"].Nodup := by decide
    refine ⟨?_, ?_, ?_, ?_⟩ <;> exact Document.hasField_of_mem names (by simp) rfl
  obtain ⟨-, read⟩ := header_documents_read_back
  have refused := (read _ _ (held .nil)).1 ⟨⟨34887, []⟩, by simp, rfl⟩
  have accepted := (read _ _ (held (.cons labelHeld .nil))).2 fun tag member => by
    simp only [List.mem_cons, reduceCtorEq, List.not_mem_nil, or_false, false_or] at member
    cases member
    exact List.cons_ne_nil _ _
  exact ⟨refused, accepted⟩

end OpenFlow
