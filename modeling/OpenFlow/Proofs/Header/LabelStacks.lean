import OpenFlow.Proofs.Header.InBounds

/-!
# Label stacks that can be built

An MPLS tag starts with one label, with a list of labels that must not be empty, or with what a
document holds, and is then changed by pushing, popping and overwriting labels. None of this
leaves it without a label, and every tag with a label can be had so: the tags that can be built
are the MPLS tags of header stacks.
-/
namespace OpenFlow

inductive LabelEdit where
  | push (entry : LabelEntry)
  | pop
  | setOutermost (entry : LabelEntry)
  /-- A position past the end changes nothing. -/
  | set (index : Nat) (entry : LabelEntry)
deriving DecidableEq, Repr

namespace RawMpls

variable {tag : RawMpls}

def edit (tag : RawMpls) : LabelEdit → Checked RawMpls
  | .push entry => tag.push entry
  | .pop => tag.pop.map Prod.snd
  | .setOutermost entry => tag.withOutermost entry
  | .set index entry => return tag.withEntry index entry

/-- The MPLS tags that can be built, and those that they can be changed into. -/
inductive Reachable : RawMpls → Prop
  | single (etherType : UInt16) (entry : LabelEntry) : Reachable (.single etherType entry)
  | listed {etherType : UInt16} {labels : List LabelEntry} {tag : RawMpls}
      (built : ofEntries? etherType labels = some tag) : Reachable tag
  | decoded {document : Document} {tag : RawMpls} (read : decode document = .ok tag) :
      Reachable tag
  | edited {tag after : RawMpls} (change : LabelEdit) (start : Reachable tag)
      (changed : tag.edit change = .ok after) : Reachable after

theorem edit_raw (tag : MplsTag) (change : LabelEdit) :
    ∃ after : MplsTag, tag.raw.edit change = .ok after.raw := by
  cases change with
  | push entry => exact ⟨tag.push entry, push_raw tag entry⟩
  | pop =>
    rw [edit, pop_raw]
    cases tag.pop? with
    | none => exact ⟨tag, rfl⟩
    | some popped => exact ⟨popped.2, rfl⟩
  | setOutermost entry => exact ⟨tag.withOutermost entry, withOutermost_raw tag entry⟩
  | set index entry =>
    refine ⟨tag.withEntry index entry, ?_⟩
    rw [edit, withEntry_raw]
    rfl

theorem Reachable.exists_raw (reachable : tag.Reachable) :
    ∃ labelled : MplsTag, labelled.raw = tag := by
  -- However the tag is built, an empty list of labels is refused, and no edit empties it.
  induction reachable with
  | single etherType entry => exact ⟨.single etherType entry, rfl⟩
  | listed built =>
    rw [ofEntries?_eq_map] at built
    obtain ⟨labelled, -, same⟩ := Option.map_eq_some_iff.mp built
    exact ⟨labelled, same⟩
  | @decoded document tag read =>
    rw [decode_eq_map] at read
    cases decoded : (Serial.decode document : Except _ MplsTag) with
    | error error =>
      rw [decoded] at read
      cases read
    | ok labelled =>
      rw [decoded] at read
      cases read
      exact ⟨labelled, rfl⟩
  | edited change start changed ih =>
    obtain ⟨labelled, rfl⟩ := ih
    obtain ⟨after, succeeded⟩ := edit_raw labelled change
    rw [succeeded] at changed
    cases changed
    exact ⟨after, rfl⟩

theorem reachable_raw (tag : MplsTag) : tag.raw.Reachable := by
  apply Reachable.listed
  exact ofEntries?_eq_map tag.etherType tag.entries

theorem Reachable.labels_ne_nil (reachable : tag.Reachable) : tag.labels ≠ [] := by
  obtain ⟨labelled, rfl⟩ := reachable.exists_raw
  exact List.cons_ne_nil labelled.outermost labelled.inner

theorem Reachable.exists_outermost (reachable : tag.Reachable) :
    ∃ entry, tag.outermost = .ok entry := by
  obtain ⟨labelled, rfl⟩ := reachable.exists_raw
  exact ⟨labelled.outermost, outermost_raw labelled⟩

theorem Reachable.exists_edit (reachable : tag.Reachable) (change : LabelEdit) :
    ∃ after, tag.edit change = .ok after := by
  obtain ⟨labelled, rfl⟩ := reachable.exists_raw
  obtain ⟨after, succeeded⟩ := edit_raw labelled change
  exact ⟨after.raw, succeeded⟩

end RawMpls

namespace RawStack

variable {stack : RawStack}

/-- The MPLS tags of the stack can all be built. -/
def Built (stack : RawStack) : Prop := ∀ tag, RawTag.mpls tag ∈ stack → tag.Reachable

def Labelled (stack : RawStack) : Prop := ∀ tag, RawTag.mpls tag ∈ stack → tag.labels ≠ []

theorem built_raw (stack : HeaderStack) : stack.raw.Built := by
  intro tag member
  obtain ⟨header, -, same⟩ := List.mem_map.mp member
  cases header with
  | mpls labelled =>
    cases same
    exact RawMpls.reachable_raw labelled
  | _ => cases same

theorem Built.labelled (built : stack.Built) : stack.Labelled := by
  intro tag member
  exact (built tag member).labels_ne_nil

/-- The stacks that can be built are the header stacks. -/
theorem Built.exists_raw (built : stack.Built) : ∃ headers : HeaderStack, headers.raw = stack := by
  induction stack with
  | nil => exact ⟨.empty, rfl⟩
  | cons tag rest ih =>
    have outermost : ∃ header : HeaderTag, header.raw = tag := by
      cases tag with
      | ether header => exact ⟨.ether header, rfl⟩
      | vlan tag => exact ⟨.vlan tag, rfl⟩
      | mpls tag =>
        obtain ⟨labelled, rfl⟩ := (built tag List.mem_cons_self).exists_raw
        exact ⟨.mpls labelled, rfl⟩
      | ipv4 header => exact ⟨.ipv4 header, rfl⟩
    obtain ⟨header, rfl⟩ := outermost
    obtain ⟨headers, rfl⟩ := ih fun tag member => built tag (List.mem_cons_of_mem _ member)
    exact ⟨⟨header :: headers.tags⟩, rfl⟩

end RawStack

end OpenFlow
