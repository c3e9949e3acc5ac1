import OpenFlow.Header.Ttl
import OpenFlow.Proofs.Header.Encapsulation

/-!
# Rewriting headers in place

A rewriting changes the first tag of a kind and leaves it of that kind, so no lookup
finds another tag afterwards. Rewritings of different kinds of header can be swapped,
and so can those that write different fields of one tag; a rewriting that covers what an
earlier one wrote makes it superfluous.
-/
namespace OpenFlow

namespace SetField

variable {first second : SetField}

/-- Different fields can be written in either order. -/
theorem write_comm (distinct : first.kind ≠ second.kind) (tag : HeaderTag) :
    second.write (first.write tag) = first.write (second.write tag) := by
  -- Where the tag does not hold the first field, only the second is written in either order.
  cases first <;> cases tag <;> try rfl
  all_goals cases second <;> first | rfl | exact absurd rfl distinct

/-- A field holds what was written into it last. -/
theorem write_write (same : first.kind = second.kind) (tag : HeaderTag) :
    second.write (first.write tag) = second.write tag := by
  cases first <;> cases second <;> cases same <;> cases tag <;> rfl

/-- No field is the time to live. -/
theorem write_withTtl (field : SetField) (ttl : UInt8) (tag : HeaderTag) :
    field.write (tag.withTtl ttl) = (field.write tag).withTtl ttl := by
  cases tag with
  | ether | vlan => rfl
  | mpls | ipv4 => cases field <;> rfl

end SetField

theorem HeaderTag.withTtl_withTtl (tag : HeaderTag) (early late : UInt8) :
    (tag.withTtl early).withTtl late = tag.withTtl late := by
  cases tag <;> rfl

/-! ### Rewritings of a stack -/

/-- A change of the first tag of a kind that leaves it of that kind. -/
structure Rewriting where
  kind : HeaderKind
  change : HeaderTag → HeaderTag
  keeps : ∀ tag, (change tag).kind = tag.kind

def SetField.rewriting (field : SetField) : Rewriting :=
  ⟨field.owner, field.write, field.kind_write⟩

def TtlHeader.rewriting (header : TtlHeader) (ttl : UInt8) : Rewriting :=
  ⟨header.kind, HeaderTag.withTtl ttl, HeaderTag.kind_withTtl ttl⟩

namespace HeaderStack

def rewrite (stack : HeaderStack) (rewriting : Rewriting) : HeaderStack :=
  stack.editFirst rewriting.kind fun tag => .replace (rewriting.change tag)

variable {first second : Rewriting} {tag : HeaderTag} {rest : List HeaderTag}

theorem rewrite_cons_of_eq (same : tag.kind = first.kind) :
    rewrite ⟨tag :: rest⟩ first = ⟨first.change tag :: rest⟩ := by
  have outermost : first.kind ∉ ([] : List HeaderTag).map HeaderTag.kind := List.not_mem_nil
  exact editFirst_first outermost same _

theorem rewrite_cons_of_ne (other : tag.kind ≠ first.kind) :
    rewrite ⟨tag :: rest⟩ first = ⟨tag :: (rewrite ⟨rest⟩ first).tags⟩ := by
  rcases lacks_or_first ⟨rest⟩ first.kind with lacks | ⟨outer, found, inner, split, same, none⟩
  · have nowhere : first.kind ∉ kinds ⟨tag :: rest⟩ := by
      rw [kinds, List.map_cons, List.mem_cons, not_or]
      exact ⟨other.symm, lacks⟩
    rw [rewrite, editFirst_of_lacks nowhere, rewrite, editFirst_of_lacks lacks]
  · have before : first.kind ∉ (tag :: outer).map HeaderTag.kind := by
      rw [List.map_cons, List.mem_cons, not_or]
      exact ⟨other.symm, none⟩
    obtain rfl : rest = outer ++ found :: inner := congrArg tags split
    rw [rewrite, ← List.cons_append, editFirst_first before same, rewrite,
      editFirst_first none same]
    rfl

theorem rewrite_comm_of_ne (distinct : first.kind ≠ second.kind) (stack : HeaderStack) :
    (stack.rewrite first).rewrite second = (stack.rewrite second).rewrite first := by
  obtain ⟨tags⟩ := stack
  induction tags with
  | nil => rfl
  | cons tag rest ih =>
    -- The tag is the one to change for the first rewriting, for the second, or for neither.
    by_cases own : tag.kind = first.kind
    · have other : tag.kind ≠ second.kind := fun same => distinct (own.symm.trans same)
      have still : (first.change tag).kind ≠ second.kind := by rwa [first.keeps]
      rw [rewrite_cons_of_eq own, rewrite_cons_of_ne still, rewrite_cons_of_ne other,
        rewrite_cons_of_eq own]
    · by_cases others : tag.kind = second.kind
      · have still : (second.change tag).kind ≠ first.kind := by rwa [second.keeps]
        rw [rewrite_cons_of_ne own, rewrite_cons_of_eq others, rewrite_cons_of_eq others,
          rewrite_cons_of_ne still]
      · rw [rewrite_cons_of_ne own, rewrite_cons_of_ne others, rewrite_cons_of_ne others,
          rewrite_cons_of_ne own]
        exact congrArg (fun stack : HeaderStack => mk (tag :: stack.tags)) ih

/-- One rewriting after another of the same kind of header changes one tag twice. -/
theorem rewrite_rewrite (same : first.kind = second.kind) (stack : HeaderStack) :
    (stack.rewrite first).rewrite second =
      stack.editFirst second.kind fun tag => .replace (second.change (first.change tag)) := by
  rw [rewrite, rewrite, same, editFirst_replace first.keeps]

/-- Rewritings can be swapped unless they are of one kind of header and their changes cannot. -/
theorem rewrite_comm
    (agree : first.kind = second.kind →
      ∀ tag, second.change (first.change tag) = first.change (second.change tag))
    (stack : HeaderStack) :
    (stack.rewrite first).rewrite second = (stack.rewrite second).rewrite first := by
  by_cases same : first.kind = second.kind
  · rw [rewrite_rewrite same, rewrite_rewrite same.symm, same]
    exact editFirst_congr fun tag _ => congrArg Edit.replace (agree same tag)
  · exact rewrite_comm_of_ne same stack

/-- A change that covers an earlier one makes it superfluous. -/
theorem rewrite_of_covers (same : first.kind = second.kind)
    (covers : ∀ tag, second.change (first.change tag) = second.change tag) (stack : HeaderStack) :
    (stack.rewrite first).rewrite second = stack.rewrite second := by
  rw [rewrite_rewrite same]
  exact editFirst_congr fun tag _ => congrArg Edit.replace (covers tag)

theorem rewrite_field_twice {early late : SetField} (same : early.kind = late.kind)
    (stack : HeaderStack) :
    (stack.rewrite early.rewriting).rewrite late.rewriting = stack.rewrite late.rewriting :=
  rewrite_of_covers (congrArg FieldKind.owner same) (SetField.write_write same) stack

theorem rewrite_ttl_twice (header : TtlHeader) (early late : UInt8) (stack : HeaderStack) :
    (stack.rewrite (header.rewriting early)).rewrite (header.rewriting late) =
      stack.rewrite (header.rewriting late) := by
  have same : (header.rewriting early).kind = (header.rewriting late).kind := rfl
  exact rewrite_of_covers same (HeaderTag.withTtl_withTtl · early late) stack

end HeaderStack

end OpenFlow
