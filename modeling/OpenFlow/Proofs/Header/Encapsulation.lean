import OpenFlow.Header.Encapsulation
import OpenFlow.Header.Field
import OpenFlow.Header.Ttl

/-!
# Popping what was pushed

Popping takes off the label or the VLAN tag that was pushed last, and what was written
into it in between goes with it. For VLAN tags this needs every VLAN tag to stand
beneath an Ethernet header, since a tag is pushed under the first Ethernet header and
the outermost VLAN tag is popped.
-/
namespace OpenFlow

namespace HeaderStack

variable {stack : HeaderStack} {outer inner : List HeaderTag} {tag : HeaderTag}

theorem setField_eq_editFirst (stack : HeaderStack) (field : SetField) :
    stack.setField field = stack.editFirst field.owner fun tag => .replace (field.write tag) :=
  getD_modifyFirst? stack field.owner field.write

theorem kinds_setField (stack : HeaderStack) (field : SetField) :
    (stack.setField field).kinds = stack.kinds := by
  rw [setField_eq_editFirst]
  exact kinds_editNth_replace field.kind_write stack field.owner 0

/-- A tag that is inserted stands between the tag it was inserted after and the next. -/
theorem insertAfter_first {kind : HeaderKind} (first : kind ∉ outer.map HeaderTag.kind)
    (same : tag.kind = kind) (new : HeaderTag) :
    editFirst ⟨outer ++ tag :: inner⟩ kind (fun tag => .insertAfter tag new) =
      ⟨outer ++ tag :: new :: inner⟩ := by
  rw [editFirst_first first same]
  simp [Edit.tags]

/-- Deleting an inserted tag that is the first of its kind undoes the insertion. -/
theorem delete_inserted {kind : HeaderKind} {new : HeaderTag} {edit : HeaderTag → Edit}
    (none : kind ∉ outer.map HeaderTag.kind) (other : kind ≠ tag.kind) (same : new.kind = kind)
    (deletes : edit new = .delete) :
    editFirst ⟨outer ++ tag :: new :: inner⟩ kind edit = ⟨outer ++ tag :: inner⟩ := by
  have first : kind ∉ (outer ++ [tag]).map HeaderTag.kind := by
    rw [List.map_append, List.mem_append, not_or]
    exact ⟨none, by simpa using other⟩
  rw [List.append_cons, editFirst_first first same, deletes]
  simp [Edit.tags]

/-! ### Labels -/

/-- The outermost label does not matter to what is left without it. -/
theorem dropLabel_withOutermost (tag : MplsTag) (entry : LabelEntry) :
    dropLabel (.mpls (tag.withOutermost entry)) = dropLabel (.mpls tag) := by
  obtain ⟨etherType, outermost, inner⟩ := tag
  cases inner <;> rfl

theorem popMpls_of_relabel {change : HeaderTag → HeaderTag}
    (keeps : ∀ tag, (change tag).kind = tag.kind)
    (relabels : ∀ tag, ∃ entry, change (.mpls tag) = .mpls (tag.withOutermost entry)) :
    (stack.editFirst .mpls fun tag => .replace (change tag)).popMpls = stack.popMpls := by
  rw [popMpls, editFirst_replace keeps]
  refine editFirst_congr fun tag same => ?_
  cases tag with
  | mpls tag =>
    obtain ⟨entry, relabelled⟩ := relabels tag
    rw [relabelled, dropLabel_withOutermost]
  | _ => cases same

theorem popMpls_setField {field : SetField} (owner : field.owner = .mpls) :
    (stack.setField field).popMpls = stack.popMpls := by
  rw [setField_eq_editFirst, owner]
  exact popMpls_of_relabel field.kind_write fun tag => ⟨field.writeLabel tag.outermost, rfl⟩

theorem popMpls_setTtl (ttl : UInt8) : (stack.setTtl .mpls ttl).popMpls = stack.popMpls :=
  popMpls_of_relabel (HeaderTag.kind_withTtl ttl) fun tag => ⟨{ tag.outermost with ttl }, rfl⟩

theorem popMpls_decTtl {after : HeaderStack} (decremented : stack.decTtl .mpls = .ok after) :
    after.popMpls = stack.popMpls := by
  rcases setTtl_of_decTtl decremented with ⟨-, rfl⟩ | ⟨ttl, -, -, rfl⟩
  · rfl
  · exact popMpls_setTtl (ttl - 1)

/-- A label goes onto the first MPLS tag. -/
theorem pushMpls_first (tag : MplsTag) (first : .mpls ∉ outer.map HeaderTag.kind)
    (etherType : UInt16) :
    pushMpls ⟨outer ++ .mpls tag :: inner⟩ etherType =
      ⟨outer ++ .mpls (tag.push { tag.outermost with bos := false }) :: inner⟩ := by
  have present : contains ⟨outer ++ .mpls tag :: inner⟩ .mpls = true := by
    simp [contains_iff, kinds, HeaderTag.kind]
  rw [pushMpls, if_pos present, editFirst_first first rfl]
  simp [duplicateLabel, Edit.tags]

/-- Without an MPLS tag, a label goes into a new one. -/
theorem pushMpls_of_lacks (lacks : .mpls ∉ stack.kinds) (etherType : UInt16) :
    stack.pushMpls etherType =
      stack.editFirst (if .vlan ∈ stack.kinds then .vlan else .ether) fun tag =>
        .insertAfter tag (.mpls (.single etherType ⟨0, 0, true, stack.ipv4Ttl⟩)) := by
  have absent : ¬ stack.contains .mpls = true := fun present => lacks (contains_iff.mp present)
  rw [pushMpls, if_neg absent]
  simp only [contains_iff]

theorem popMpls_pushMpls (stack : HeaderStack) (etherType : UInt16) :
    (stack.pushMpls etherType).popMpls = stack := by
  rcases stack.lacks_or_first .mpls with lacks | ⟨outer, tag, inner, rfl, same, first⟩
  · rw [pushMpls_of_lacks lacks]
    generalize (if .vlan ∈ stack.kinds then .vlan else .ether : HeaderKind) = anchor
    rcases stack.lacks_or_first anchor with none | ⟨outer, tag, inner, rfl, same, first⟩
    · rw [editFirst_of_lacks none, popMpls, editFirst_of_lacks lacks]
    · simp only [kinds, List.map_append, List.map_cons, List.mem_append, List.mem_cons,
        not_or] at lacks
      rw [insertAfter_first first same]
      exact delete_inserted lacks.1 lacks.2.1 rfl rfl
  · cases tag with
    | mpls tag =>
      -- The duplicate is the outermost label of what is still the first MPLS tag.
      rw [pushMpls_first tag first, popMpls, editFirst_first first rfl, dropLabel,
        MplsTag.pop?_push]
      simp [Edit.tags]
    | _ => cases same

/-! ### VLAN tags -/

/-- Every VLAN tag has an Ethernet header somewhere outside it. -/
def VlansUnderEther (stack : HeaderStack) : Prop :=
  ∀ outer inner, stack.kinds = outer ++ .vlan :: inner → .ether ∈ outer

theorem VlansUnderEther.not_mem_outer {front back : List HeaderKind}
    (under : stack.VlansUnderEther) (split : stack.kinds = front ++ back)
    (none : .ether ∉ front) : .vlan ∉ front := by
  intro member
  obtain ⟨outer, inner, rfl⟩ := List.append_of_mem member
  have outside : .ether ∈ outer := under outer (inner ++ back) (by simp [split])
  exact none (List.mem_append_left _ outside)

theorem VlansUnderEther.lacks_vlan (under : stack.VlansUnderEther)
    (lacks : .ether ∉ stack.kinds) : .vlan ∉ stack.kinds :=
  under.not_mem_outer (List.append_nil stack.kinds).symm lacks

theorem vlansUnderEther_of_first (ether : tag.kind = .ether)
    (none : .vlan ∉ outer.map HeaderTag.kind) :
    VlansUnderEther ⟨outer ++ tag :: inner⟩ := by
  intro front back split
  have kinds : outer.map HeaderTag.kind ++ .ether :: inner.map HeaderTag.kind =
      front ++ .vlan :: back := by
    rw [← split, ← ether]
    simp [HeaderStack.kinds]
  rcases List.append_eq_append_iff.mp kinds with ⟨more, longer, rest⟩ | ⟨more, longer, rest⟩
  · -- The VLAN tag stands inside the Ethernet header, or is that header.
    cases more with
    | nil => simp at rest
    | cons kind more =>
      simp only [List.cons_append, List.cons.injEq] at rest
      simp [longer, rest.1]
  · cases more with
    | nil => simp at rest
    | cons kind more =>
      simp only [List.cons_append, List.cons.injEq] at rest
      exact absurd (by simp [longer, rest.1]) none

theorem VlansUnderEther.popVlan_eq_editFirst (under : stack.VlansUnderEther) :
    stack.popVlan = stack.editFirst .vlan fun _ => .delete := by
  unfold popVlan
  split
  next small =>
    -- A lone tag is no VLAN tag, since it has no Ethernet header outside it.
    have lacks : .vlan ∉ stack.kinds := by
      intro member
      obtain ⟨outer, inner, split⟩ := List.append_of_mem member
      have outside := List.length_pos_of_mem (under outer inner split)
      have total : stack.size = outer.length + (inner.length + 1) := by
        simpa [HeaderStack.kinds, size] using congrArg List.length split
      omega
    rw [editFirst_of_lacks lacks]
  · rfl

theorem pushVlan_eq_insertAfter (stack : HeaderStack) (etherType : UInt16)
    (defaults : VlanDefaults) :
    ∃ new, stack.pushVlan etherType defaults =
      stack.editFirst .ether fun tag => .insertAfter tag (.vlan new) :=
  ⟨_, rfl⟩

/-- The pushed tag is the outermost VLAN tag, and the Ethernet header it stands under is there. -/
theorem VlansUnderEther.pushVlan (under : stack.VlansUnderEther) (etherType : UInt16)
    (defaults : VlanDefaults) :
    (stack.pushVlan etherType defaults).VlansUnderEther ∧
      (stack.pushVlan etherType defaults).popVlan = stack := by
  obtain ⟨new, pushed⟩ := stack.pushVlan_eq_insertAfter etherType defaults
  rw [pushed]
  rcases stack.lacks_or_first .ether with lacks | ⟨outer, tag, inner, rfl, ether, first⟩
  · rw [editFirst_of_lacks lacks, under.popVlan_eq_editFirst,
      editFirst_of_lacks (under.lacks_vlan lacks)]
    exact ⟨under, rfl⟩
  · have split : kinds ⟨outer ++ tag :: inner⟩ =
        outer.map HeaderTag.kind ++ (tag :: inner).map HeaderTag.kind := List.map_append
    have none := under.not_mem_outer split first
    have still : VlansUnderEther ⟨outer ++ tag :: .vlan new :: inner⟩ :=
      vlansUnderEther_of_first ether none
    rw [insertAfter_first first ether]
    refine ⟨still, ?_⟩
    rw [still.popVlan_eq_editFirst]
    exact delete_inserted none (by simp [ether]) rfl rfl

theorem VlansUnderEther.setField (under : stack.VlansUnderEther) (field : SetField) :
    (stack.setField field).VlansUnderEther := by
  intro outer inner split
  rw [kinds_setField] at split
  exact under outer inner split

theorem VlansUnderEther.popVlan_setField (under : stack.VlansUnderEther) {field : SetField}
    (owner : field.owner = .vlan) : (stack.setField field).popVlan = stack.popVlan := by
  rw [(under.setField field).popVlan_eq_editFirst, under.popVlan_eq_editFirst,
    setField_eq_editFirst, owner, editFirst_replace field.kind_write]

end HeaderStack

end OpenFlow
