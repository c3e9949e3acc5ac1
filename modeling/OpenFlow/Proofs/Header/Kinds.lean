import OpenFlow.Proofs.Header.Shape

/-!
# The kinds of headers an action leaves

Only pushes and pops change which kinds of headers a packet has. A push inserts its kind
after the first tag of another, and a pop erases the first tag of its kind, if any.
-/
namespace OpenFlow

/-- Insert a kind after the first `anchor`; without an anchor nothing is inserted. -/
def HeaderKind.insertAfter (anchor new : HeaderKind) : List HeaderKind → List HeaderKind
  | [] => []
  | kind :: rest =>
    if kind = anchor then kind :: new :: rest else kind :: insertAfter anchor new rest

namespace HeaderKind

variable {anchor new : HeaderKind} {front back kinds : List HeaderKind}

theorem insertAfter_append (first : anchor ∉ front) :
    insertAfter anchor new (front ++ anchor :: back) = front ++ anchor :: new :: back := by
  induction front with
  | nil => simp [insertAfter]
  | cons kind front ih =>
    obtain ⟨other, later⟩ := List.ne_and_not_mem_of_not_mem_cons first
    rw [List.cons_append, insertAfter, if_neg other.symm, ih later, List.cons_append]

theorem insertAfter_of_not_mem (absent : anchor ∉ kinds) :
    insertAfter anchor new kinds = kinds := by
  induction kinds with
  | nil => rfl
  | cons kind rest ih =>
    obtain ⟨other, later⟩ := List.ne_and_not_mem_of_not_mem_cons absent
    rw [insertAfter, if_neg other.symm, ih later]

theorem insertAfter_perm (present : anchor ∈ kinds) :
    (insertAfter anchor new kinds).Perm (new :: kinds) := by
  obtain ⟨front, back, rfl, first⟩ := List.eq_append_cons_of_mem present
  rw [insertAfter_append first, List.append_cons, List.append_cons front anchor back]
  exact List.perm_middle

theorem insertAfter_subset : insertAfter anchor new kinds ⊆ new :: kinds := by
  by_cases present : anchor ∈ kinds
  · exact (insertAfter_perm present).subset
  · rw [insertAfter_of_not_mem present]
    exact List.subset_cons_self new kinds

end HeaderKind

namespace HeaderStack

open HeaderKind (insertAfter)

theorem kinds_append (outer inner : List HeaderTag) (tag : HeaderTag) :
    kinds ⟨outer ++ tag :: inner⟩ =
      outer.map HeaderTag.kind ++ tag.kind :: inner.map HeaderTag.kind := by
  simp [kinds]

theorem kinds_editFirst_first {kind : HeaderKind} {outer inner : List HeaderTag} {tag : HeaderTag}
    (first : kind ∉ outer.map HeaderTag.kind) (same : tag.kind = kind) (edit : HeaderTag → Edit) :
    (editFirst ⟨outer ++ tag :: inner⟩ kind edit).kinds =
      outer.map HeaderTag.kind ++ ((edit tag).tags.map HeaderTag.kind ++
        inner.map HeaderTag.kind) := by
  rw [editFirst_first first same]
  simp [kinds]

theorem kinds_editFirst_insertAfter (stack : HeaderStack) (kind : HeaderKind) (new : HeaderTag) :
    (stack.editFirst kind fun tag => .insertAfter tag new).kinds =
      insertAfter kind new.kind stack.kinds := by
  rcases stack.lacks_or_first kind with lacks | ⟨outer, tag, inner, rfl, rfl, first⟩
  · rw [editFirst_of_lacks lacks, HeaderKind.insertAfter_of_not_mem lacks]
  · rw [kinds_editFirst_first first rfl, kinds_append, HeaderKind.insertAfter_append first]
    rfl

theorem kinds_editFirst_delete (stack : HeaderStack) (kind : HeaderKind) :
    (stack.editFirst kind fun _ => .delete).kinds = stack.kinds.erase kind := by
  rcases stack.lacks_or_first kind with lacks | ⟨outer, tag, inner, rfl, rfl, first⟩
  · rw [editFirst_of_lacks lacks, List.erase_of_not_mem lacks]
  · rw [kinds_editFirst_first first rfl, kinds_append, List.erase_append_right _ first,
      List.erase_cons_head]
    rfl

theorem kinds_pushVlan (stack : HeaderStack) (etherType : UInt16) (defaults : VlanDefaults) :
    (stack.pushVlan etherType defaults).kinds = insertAfter .ether .vlan stack.kinds := by
  obtain ⟨new, pushed⟩ := stack.pushVlan_eq_insertAfter etherType defaults
  rw [pushed]
  exact kinds_editFirst_insertAfter stack .ether (.vlan new)

theorem kinds_popVlan (stack : HeaderStack) :
    stack.popVlan.kinds =
      if stack.kinds.length ≤ 1 then stack.kinds else stack.kinds.erase .vlan := by
  have counted : stack.kinds.length = stack.size := List.length_map _
  rw [popVlan, counted]
  split
  · rfl
  · exact kinds_editFirst_delete stack .vlan

theorem kinds_pushMpls (stack : HeaderStack) (etherType : UInt16) :
    (stack.pushMpls etherType).kinds =
      if .mpls ∈ stack.kinds then stack.kinds
      else insertAfter (if .vlan ∈ stack.kinds then .vlan else .ether) .mpls stack.kinds := by
  simp only [pushMpls, contains_iff]
  split
  next present =>
    rcases stack.lacks_or_first .mpls with lacks | ⟨outer, tag, inner, rfl, same, first⟩
    · exact absurd present lacks
    · cases tag with
      | mpls tag =>
        rw [kinds_editFirst_first first rfl, kinds_append]
        rfl
      | _ => cases same
  next => exact kinds_editFirst_insertAfter stack _ _

/-- A pop either leaves the MPLS tag with its other labels, or takes it away. -/
theorem kinds_popMpls (stack : HeaderStack) :
    stack.popMpls.kinds = stack.kinds ∨ stack.popMpls.kinds = stack.kinds.erase .mpls := by
  rcases stack.lacks_or_first .mpls with lacks | ⟨outer, tag, inner, rfl, same, first⟩
  · exact .inl (by rw [popMpls, editFirst_of_lacks lacks])
  · cases tag with
    | mpls tag =>
      rw [popMpls, kinds_editFirst_first first rfl, kinds_append,
        List.erase_append_right _ first, dropLabel]
      cases tag.pop? with
      | some popped => exact .inl rfl
      | none => exact .inr (by rw [HeaderTag.kind, List.erase_cons_head]; rfl)
    | _ => cases same

theorem kinds_popVlan_sublist (stack : HeaderStack) : stack.popVlan.kinds.Sublist stack.kinds := by
  rw [kinds_popVlan]
  split
  · exact .refl _
  · exact List.erase_sublist

theorem kinds_popMpls_sublist (stack : HeaderStack) : stack.popMpls.kinds.Sublist stack.kinds := by
  rcases kinds_popMpls stack with same | erased
  · exact same ▸ .refl _
  · exact erased ▸ List.erase_sublist

end HeaderStack

theorem Action.kinds_of_transform {defaults : VlanDefaults} {packet next : Packet}
    {action : Action} (plain : action.reshapes = false)
    (moved : action.transform defaults packet = .ok next) :
    next.headers.kinds = packet.headers.kinds :=
  HeaderStack.kinds_congr (shape_of_transform plain moved)

end OpenFlow
