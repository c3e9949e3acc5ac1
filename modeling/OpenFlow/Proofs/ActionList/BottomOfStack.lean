import OpenFlow.Proofs.ActionList.Shown
import OpenFlow.Proofs.Header.Tagwise

/-!
# The bottom of the label stack

The bottom-of-stack bit tells a reader of the wire which label is the last. It stands on the
innermost label of an MPLS tag and on no other. A label that is pushed onto others goes in
without the bit, a label that starts a tag has it, and a pop takes labels from the other end.
So unless a run is told to write the bit, it stands where it should in all that is shown.
-/
namespace OpenFlow

/-- The bit is set on the innermost label and on no other. -/
def MplsTag.BottomMarked (tag : MplsTag) : Prop :=
  tag.entries.map LabelEntry.bos = List.replicate tag.inner.length false ++ [true]

instance (tag : MplsTag) : Decidable tag.BottomMarked :=
  inferInstanceAs (Decidable (_ = _))

namespace MplsTag

variable {tag : MplsTag} {entry : LabelEntry}

theorem bottomMarked_single {etherType : UInt16} :
    (single etherType entry).BottomMarked ↔ entry.bos = true := by
  simp [BottomMarked, single, entries]

/-- Where other labels are below it, the outermost label has no bit. -/
theorem bottomMarked_push :
    (tag.push entry).BottomMarked ↔ entry.bos = false ∧ tag.BottomMarked := by
  rw [BottomMarked, entries_push, List.map_cons, push, entries, List.length_cons,
    List.replicate_succ, List.cons_append, List.cons.injEq]
  rfl

theorem bottomMarked_congr {other : MplsTag}
    (same : tag.entries.map LabelEntry.bos = other.entries.map LabelEntry.bos) :
    tag.BottomMarked ↔ other.BottomMarked := by
  -- The bits also tell how many labels there are.
  have long : tag.inner.length = other.inner.length := by
    simpa [entries] using congrArg List.length same
  rw [BottomMarked, BottomMarked, same, long]

end MplsTag

/-- The tag is no MPLS tag, or its labels are marked right. -/
def HeaderTag.BottomMarked : HeaderTag → Prop
  | .mpls tag => tag.BottomMarked
  | .ether _ | .vlan _ | .ipv4 _ => True

instance : DecidablePred HeaderTag.BottomMarked
  | .mpls tag => inferInstanceAs (Decidable tag.BottomMarked)
  | .ether _ | .vlan _ | .ipv4 _ => .isTrue trivial

/-- Every MPLS tag of the stack has the bit on its innermost label and on no other. -/
def HeaderStack.BottomsMarked (stack : HeaderStack) : Prop := stack.Every HeaderTag.BottomMarked

instance (stack : HeaderStack) : Decidable stack.BottomsMarked :=
  inferInstanceAs (Decidable (∀ tag ∈ stack.tags, tag.BottomMarked))

namespace HeaderTag

variable {tag : HeaderTag}

theorem bottomMarked_withoutTtls : tag.withoutTtls.BottomMarked ↔ tag.BottomMarked := by
  cases tag with
  | mpls tag =>
    refine MplsTag.bottomMarked_congr ?_
    simp [MplsTag.entries, Function.comp_def]
  | _ => rfl

theorem BottomMarked.write {field : SetField} (marked : tag.BottomMarked)
    (other : field.kind ≠ .mplsBos) : (field.write tag).BottomMarked := by
  cases tag with
  | mpls tag =>
    have same : (field.writeLabel tag.outermost).bos = tag.outermost.bos := by
      cases field <;> first | rfl | exact absurd rfl other
    refine (MplsTag.bottomMarked_congr ?_).mpr marked
    simp [MplsTag.entries, MplsTag.withOutermost, same]
  | _ => trivial

end HeaderTag

theorem Action.bottomsMarked_of_transform {defaults : VlanDefaults} {packet next : Packet}
    {action : Action} (unset : ∀ bos, action ≠ .setField (.mplsBos bos))
    (marked : packet.headers.BottomsMarked)
    (moved : action.transform defaults packet = .ok next) : next.headers.BottomsMarked := by
  apply Action.every_of_transform _ _ _ _ _ _ marked moved
  · intro tag
    exact HeaderTag.bottomMarked_withoutTtls
  · intro field written tag own
    apply own.write
    intro same
    cases field <;> cases same
    exact unset _ written
  · intro etherType
    trivial
  · intro tag own
    exact MplsTag.bottomMarked_push.mpr ⟨rfl, own⟩
  · intro etherType ttl
    exact MplsTag.bottomMarked_single.mpr rfl
  · intro tag entry own
    exact (MplsTag.bottomMarked_push.mp own).2

namespace Datapath

/-- A run that is not told to write the bottom-of-stack bit shows it on the innermost label of
every MPLS tag and on no other, if it starts from a packet where this is so. -/
theorem applyList_marks_bottoms (datapath : Datapath) (packet : Packet) (actions : List Action)
    (marked : packet.headers.BottomsMarked)
    (unset : ∀ action ∈ actions, ∀ bos, action ≠ .setField (.mplsBos bos)) :
    (datapath.applyList packet actions).ShowsOnly fun shown => shown.headers.BottomsMarked := by
  refine showsOnly_of_applyList (fun action member met next marked moved => ?_)
    (fun _ marked => marked) marked
  exact Action.bottomsMarked_of_transform (unset action member) marked moved

/-- A label is duplicated, both are popped, and the tag that is pushed then cannot be
decremented. -/
theorem applyList_marks_bottoms_tag_replaced :
    let datapath : Datapath := {}
    let bits (handed : PortNo × Packet) : List (List Bool) :=
      handed.2.headers.tags.filterMap fun
        | .mpls tag => some (tag.entries.map LabelEntry.bos)
        | _ => none
    let packet := Sample.packet
      [Sample.ether, .mpls (.single EtherType.mpls ⟨7, 0, true, 3⟩), Sample.ipv4 0]
    let actions := [.pushMpls EtherType.mpls, .output (.number 2), .popMpls, .popMpls,
      .pushMpls EtherType.mpls, .decMplsTtl]
    let run := datapath.applyList packet actions
    packet.headers.BottomsMarked ∧ run.result = .error (.invalidTtl .mpls) ∧
    run.journal.attempts.map bits = [[[false, true]], [[true]]] ∧
    run.ShowsOnly fun shown => shown.headers.BottomsMarked := by
  intro datapath bits packet actions run
  have marked : packet.headers.BottomsMarked := by decide
  have unset : ∀ action ∈ actions, ∀ bos, action ≠ .setField (.mplsBos bos) := by decide
  exact ⟨marked, rfl, by decide +kernel,
    applyList_marks_bottoms datapath packet actions marked unset⟩

end Datapath

end OpenFlow
