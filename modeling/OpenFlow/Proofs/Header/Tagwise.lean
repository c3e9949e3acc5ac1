import OpenFlow.Proofs.Header.Encapsulation
import OpenFlow.Proofs.Header.Retiming

/-!
# Properties of single tags

A property that is asked of every tag on its own survives an edit that puts only such tags
in place, whichever tag the edit finds. For each operation on a stack it is enough to look
at the one tag it changes and at the tag it brings in, if any. A property that does not look
at times to live is kept by all actions that write nothing else.
-/
namespace OpenFlow

namespace HeaderStack

/-- The property holds of each tag of the stack. -/
def Every (holds : HeaderTag → Prop) (stack : HeaderStack) : Prop := ∀ tag ∈ stack.tags, holds tag

namespace Every

variable {holds : HeaderTag → Prop} {stack : HeaderStack} {kind : HeaderKind}

theorem editFirst {edit : HeaderTag → Edit} (every : stack.Every holds)
    (edits : ∀ tag, holds tag → ∀ new ∈ (edit tag).tags, holds new) :
    (stack.editFirst kind edit).Every holds := by
  rcases stack.lacks_or_first kind with lacks | ⟨outer, tag, inner, rfl, same, first⟩
  · rwa [editFirst_of_lacks lacks]
  · -- Only the tag that is found gives way, the tags around it stay as they are.
    simp only [Every, List.forall_mem_append, List.forall_mem_cons] at every
    obtain ⟨outside, here, inside⟩ := every
    simp only [Every, editFirst_first first same, List.forall_mem_append]
    exact ⟨⟨outside, edits tag here⟩, inside⟩

theorem replaceFirst {change : HeaderTag → HeaderTag} (every : stack.Every holds)
    (changes : ∀ tag, holds tag → holds (change tag)) :
    (stack.editFirst kind fun tag => .replace (change tag)).Every holds :=
  every.editFirst fun tag own => List.forall_mem_singleton.mpr (changes tag own)

theorem insertAfter {new : HeaderTag} (every : stack.Every holds) (fresh : holds new) :
    (stack.editFirst kind fun tag => .insertAfter tag new).Every holds :=
  every.editFirst fun _ own => List.forall_mem_cons.mpr ⟨own, List.forall_mem_singleton.mpr fresh⟩

theorem setField {field : SetField} (every : stack.Every holds)
    (writes : ∀ tag, holds tag → holds (field.write tag)) : (stack.setField field).Every holds := by
  rw [setField_eq_editFirst]
  exact every.replaceFirst writes

theorem setTtl {header : TtlHeader} {ttl : UInt8} (every : stack.Every holds)
    (sets : ∀ tag, holds tag → holds (tag.withTtl ttl)) : (stack.setTtl header ttl).Every holds :=
  every.replaceFirst sets

theorem pushVlan {etherType : UInt16} {defaults : VlanDefaults} (every : stack.Every holds)
    (fresh : holds (.vlan
      ⟨(stack.vlanIdentity defaults).2, (stack.vlanIdentity defaults).1, etherType⟩)) :
    (stack.pushVlan etherType defaults).Every holds :=
  every.insertAfter fresh

theorem popVlan (every : stack.Every holds) : stack.popVlan.Every holds := by
  unfold HeaderStack.popVlan
  split
  · exact every
  · exact every.editFirst fun _ _ => List.forall_mem_nil _

/-- A label is pushed onto a tag that has it outermost already, or goes into a tag of its own. -/
theorem pushMpls {etherType : UInt16} (every : stack.Every holds)
    (duplicates : ∀ tag : MplsTag, holds (.mpls tag) →
      holds (.mpls (tag.push { tag.outermost with bos := false })))
    (fresh : holds (.mpls (.single etherType ⟨0, 0, true, stack.ipv4Ttl⟩))) :
    (stack.pushMpls etherType).Every holds := by
  unfold HeaderStack.pushMpls
  split
  · refine every.editFirst fun tag own => ?_
    cases tag with
    | mpls tag => exact List.forall_mem_singleton.mpr (duplicates tag own)
    | _ => exact List.forall_mem_singleton.mpr own
  · exact every.insertAfter fresh

theorem popMpls (every : stack.Every holds)
    (drops : ∀ (tag : MplsTag) (entry : LabelEntry), holds (.mpls (tag.push entry)) →
      holds (.mpls tag)) : stack.popMpls.Every holds := by
  refine every.editFirst fun tag own => ?_
  cases tag with
  | mpls tag =>
    obtain ⟨etherType, outermost, inner⟩ := tag
    cases inner with
    | nil => exact List.forall_mem_nil _
    | cons next others =>
      -- What is left had the outermost label pushed onto it.
      exact List.forall_mem_singleton.mpr (drops ⟨etherType, next, others⟩ outermost own)
  | _ => exact List.forall_mem_singleton.mpr own

theorem of_withoutTtls {other : HeaderStack} (every : stack.Every holds)
    (blind : ∀ tag, holds tag.withoutTtls ↔ holds tag)
    (same : other.withoutTtls = stack.withoutTtls) : other.Every holds := by
  have erased (stack : HeaderStack) : stack.withoutTtls.Every holds ↔ stack.Every holds := by
    simp only [Every, withoutTtls, List.forall_mem_map, blind]
  rw [← erased, same, erased]
  exact every

end Every

end HeaderStack

/-- A property of single tags that does not look at times to live is kept by an action if it is
kept by the fields it writes, and holds of the tags it brings in. -/
theorem Action.every_of_transform {holds : HeaderTag → Prop} {defaults : VlanDefaults}
    {packet next : Packet} {action : Action}
    (blind : ∀ tag, holds tag.withoutTtls ↔ holds tag)
    (writes : ∀ field, action = .setField field → ∀ tag, holds tag → holds (field.write tag))
    (inherits : ∀ etherType, holds (.vlan ⟨(packet.headers.vlanIdentity defaults).2,
      (packet.headers.vlanIdentity defaults).1, etherType⟩))
    (duplicates : ∀ tag : MplsTag, holds (.mpls tag) →
      holds (.mpls (tag.push { tag.outermost with bos := false })))
    (starts : ∀ etherType ttl, holds (.mpls (.single etherType ⟨0, 0, true, ttl⟩)))
    (drops : ∀ (tag : MplsTag) (entry : LabelEntry), holds (.mpls (tag.push entry)) →
      holds (.mpls tag))
    (every : packet.headers.Every holds)
    (moved : action.transform defaults packet = .ok next) : next.headers.Every holds := by
  cases retimes : action.retimes with
  | true => exact every.of_withoutTtls blind (withoutTtls_of_transform retimes moved)
  | false =>
    cases action with
    | pushVlan etherType => cases moved; exact every.pushVlan (inherits etherType)
    | popVlan => cases moved; exact every.popVlan
    | pushMpls etherType => cases moved; exact every.pushMpls duplicates (starts etherType _)
    | popMpls => cases moved; exact every.popMpls drops
    | setField field => cases moved; exact every.setField (writes field rfl)
    | output | group | setQueue | experimenter => cases moved; exact every
    | _ => cases retimes

end OpenFlow
