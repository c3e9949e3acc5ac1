import OpenFlow.Proofs.Header.Encapsulation
import OpenFlow.Proofs.Header.Retiming

/-!
# The shape of a header stack

The shape of a stack tells its kinds of header in order, and of each MPLS tag how many
labels it has. Actions that neither push nor pop leave it alone. Where a push puts its tag,
what a pop takes away and whether a copy of the time to live is defined is told by the
shape, so stacks of one shape never part.
-/
namespace OpenFlow

inductive HeaderShape where
  | ether
  | vlan
  | mpls (labels : Nat)
  | ipv4
deriving DecidableEq, Repr

namespace HeaderShape

def kind : HeaderShape → HeaderKind
  | .ether => .ether
  | .vlan => .vlan
  | .mpls _ => .mpls
  | .ipv4 => .ipv4

def carriesTtl : HeaderShape → Bool
  | .mpls _ | .ipv4 => true
  | .ether | .vlan => false

end HeaderShape

namespace HeaderTag

def shape : HeaderTag → HeaderShape
  | .ether _ => .ether
  | .vlan _ => .vlan
  | .mpls tag => .mpls tag.size
  | .ipv4 _ => .ipv4

theorem kind_shape (tag : HeaderTag) : tag.shape.kind = tag.kind := by
  cases tag <;> rfl

theorem carriesTtl_shape (tag : HeaderTag) : tag.shape.carriesTtl = tag.ttl?.isSome := by
  cases tag <;> rfl

theorem shape_withoutTtls (tag : HeaderTag) : tag.withoutTtls.shape = tag.shape := by
  cases tag with
  | mpls tag => simp [withoutTtls, shape, MplsTag.size, MplsTag.entries]
  | _ => rfl

theorem exists_mpls_of_shape {tag : HeaderTag} {labels : Nat} (same : .mpls labels = tag.shape) :
    ∃ label : MplsTag, tag = .mpls label ∧ label.size = labels := by
  cases tag with
  | mpls label => exact ⟨label, rfl, (HeaderShape.mpls.inj same).symm⟩
  | _ => cases same

theorem shape_write (field : SetField) (tag : HeaderTag) : (field.write tag).shape = tag.shape := by
  cases tag <;> rfl

end HeaderTag

namespace HeaderStack

def shape (stack : HeaderStack) : List HeaderShape := stack.tags.map HeaderTag.shape

variable {stack twin : HeaderStack} {kind : HeaderKind}

theorem map_kind_shape (stack : HeaderStack) : stack.shape.map HeaderShape.kind = stack.kinds := by
  simp [shape, kinds, HeaderTag.kind_shape]

theorem kinds_congr (same : stack.shape = twin.shape) : stack.kinds = twin.kinds := by
  rw [← map_kind_shape, same, map_kind_shape]

theorem size_congr (same : stack.shape = twin.shape) : stack.size = twin.size := by
  simpa [shape, size] using congrArg List.length same

theorem contains_congr (same : stack.shape = twin.shape) (kind : HeaderKind) :
    stack.contains kind = twin.contains kind := by
  rw [Bool.eq_iff_iff, contains_iff, contains_iff, kinds_congr same]

theorem shape_withoutTtls (stack : HeaderStack) : stack.withoutTtls.shape = stack.shape := by
  simp [withoutTtls, shape, HeaderTag.shape_withoutTtls]

theorem shape_setField (stack : HeaderStack) (field : SetField) :
    (stack.setField field).shape = stack.shape := by
  rw [setField_eq_editFirst]
  exact map_editNth_replace (HeaderTag.shape_write field) stack field.owner 0

/-! ### Pushes and pops -/

theorem shape_duplicateLabel (tag : MplsTag) :
    (duplicateLabel (.mpls tag)).tags.map HeaderTag.shape = [.mpls (tag.size + 1)] := rfl

theorem shape_dropLabel (tag : MplsTag) :
    (dropLabel (.mpls tag)).tags.map HeaderTag.shape =
      if tag.size = 1 then [] else [.mpls (tag.size - 1)] := by
  obtain ⟨etherType, outermost, inner⟩ := tag
  cases inner <;> simp [dropLabel, MplsTag.pop?, Edit.tags, HeaderTag.shape, MplsTag.size,
    MplsTag.entries]

/-- Edits that treat tags of one shape alike treat stacks of one shape alike. -/
theorem shape_editFirst_congr {edit other : HeaderTag → Edit} (same : stack.shape = twin.shape)
    (edits : ∀ tag tag', tag.kind = kind → tag.shape = tag'.shape →
      (edit tag).tags.map HeaderTag.shape = (other tag').tags.map HeaderTag.shape) :
    (stack.editFirst kind edit).shape = (twin.editFirst kind other).shape := by
  rcases stack.lacks_or_first kind with lacks | ⟨outer, tag, inner, rfl, found, first⟩
  · have lacksToo : kind ∉ twin.kinds := kinds_congr same ▸ lacks
    rw [editFirst_of_lacks lacks, editFirst_of_lacks lacksToo, same]
  · -- The other stack is cut at the same place, so its first tag of the kind is found there.
    obtain ⟨tags⟩ := twin
    have parts : tags.map HeaderTag.shape =
        outer.map HeaderTag.shape ++ tag.shape :: inner.map HeaderTag.shape := by
      simpa [shape] using same.symm
    obtain ⟨outer', rest, rfl, outside, here⟩ := List.map_eq_append_iff.mp parts
    obtain ⟨tag', inner', rfl, matching, inside⟩ := List.map_eq_cons_iff.mp here
    have alike : shape ⟨outer'⟩ = shape ⟨outer⟩ := outside
    have kinds : outer'.map HeaderTag.kind = outer.map HeaderTag.kind := kinds_congr alike
    have foundToo : tag'.kind = kind := by
      rw [← HeaderTag.kind_shape, matching, HeaderTag.kind_shape, found]
    rw [editFirst_first first found, editFirst_first (kinds ▸ first) foundToo]
    simp only [shape, List.map_append, outside, inside, edits tag tag' found matching.symm]

theorem shape_insertAfter_congr {new new' : HeaderTag} (same : stack.shape = twin.shape)
    (alike : new.shape = new'.shape) (kind : HeaderKind) :
    (stack.editFirst kind fun tag => .insertAfter tag new).shape =
      (twin.editFirst kind fun tag => .insertAfter tag new').shape :=
  shape_editFirst_congr same fun tag tag' _ matching => by
    simp only [Edit.tags, List.map_cons, List.map_nil, matching, alike]

theorem shape_pushVlan_congr (same : stack.shape = twin.shape) (etherType : UInt16)
    (defaults : VlanDefaults) :
    (stack.pushVlan etherType defaults).shape = (twin.pushVlan etherType defaults).shape := by
  obtain ⟨new, pushed⟩ := stack.pushVlan_eq_insertAfter etherType defaults
  obtain ⟨new', pushedToo⟩ := twin.pushVlan_eq_insertAfter etherType defaults
  rw [pushed, pushedToo]
  exact shape_insertAfter_congr same (by rfl) .ether

theorem shape_popVlan_congr (same : stack.shape = twin.shape) :
    stack.popVlan.shape = twin.popVlan.shape := by
  unfold popVlan
  rw [size_congr same]
  split
  · exact same
  · exact shape_editFirst_congr same fun _ _ _ _ => rfl

theorem shape_pushMpls_congr (same : stack.shape = twin.shape) (etherType : UInt16) :
    (stack.pushMpls etherType).shape = (twin.pushMpls etherType).shape := by
  unfold pushMpls
  simp only [contains_congr same]
  split
  · refine shape_editFirst_congr same fun tag tag' mpls matching => ?_
    cases tag with
    | mpls tag =>
      obtain ⟨tag', rfl, size⟩ := HeaderTag.exists_mpls_of_shape matching
      rw [shape_duplicateLabel, shape_duplicateLabel, size]
    | _ => cases mpls
  · -- The new labels differ at most in their time to live, which is no part of the shape.
    exact shape_insertAfter_congr same (by rfl) _

theorem shape_popMpls_congr (same : stack.shape = twin.shape) :
    stack.popMpls.shape = twin.popMpls.shape := by
  refine shape_editFirst_congr same fun tag tag' mpls matching => ?_
  cases tag with
  | mpls tag =>
    obtain ⟨tag', rfl, size⟩ := HeaderTag.exists_mpls_of_shape matching
    rw [shape_dropLabel, shape_dropLabel, size]
  | _ => cases mpls

end HeaderStack

/-! ### Layouts for copying -/

/-- The layout that headers with a time to live make, given the shapes of these headers alone. -/
def CopyLayout.ofShapes? : List HeaderShape → Option CopyLayout
  | .mpls size :: later =>
    if 1 < size then some .labels
    else
      match later with
      | .ipv4 :: _ => some .mplsOverIpv4
      | _ => none
  | .ipv4 :: .ipv4 :: _ => some .ipv4OverIpv4
  | _ => none

theorem HeaderStack.copyLayout?_eq_ofShapes? (stack : HeaderStack) :
    stack.copyLayout? = CopyLayout.ofShapes? (stack.shape.filter HeaderShape.carriesTtl) := by
  have shapes : stack.shape.filter HeaderShape.carriesTtl =
      stack.ttlHeaders.map HeaderTag.shape := by
    simp only [shape, ttlHeaders, List.filter_map, Function.comp_def, HeaderTag.carriesTtl_shape]
  rw [shapes, copyLayout?]
  cases stack.ttlHeaders with
  | nil => rfl
  | cons upper later =>
    -- Only the first two headers count, the second of them if the first has just one slot.
    cases upper <;> cases later with
    | nil => rfl
    | cons lower _ => cases lower <;> rfl

theorem HeaderStack.isNone_copyTtl?_congr {stack twin : HeaderStack}
    (same : stack.shape = twin.shape) (direction : CopyDirection) :
    (stack.copyTtl? direction).isNone = (twin.copyTtl? direction).isNone := by
  simp only [copyTtl?, copyLayout?_eq_ofShapes?, same, Option.isNone_map]

namespace Action

/-- The action may change the shape of a packet's headers. -/
def reshapes : Action → Bool
  | .pushVlan _ | .popVlan | .pushMpls _ | .popMpls => true
  | _ => false

variable {defaults : VlanDefaults} {packet twin next nextTwin : Packet} {action : Action}

theorem shape_of_transform (plain : action.reshapes = false)
    (moved : action.transform defaults packet = .ok next) :
    next.headers.shape = packet.headers.shape := by
  cases retimes : action.retimes with
  | true =>
    rw [← HeaderStack.shape_withoutTtls next.headers, withoutTtls_of_transform retimes moved,
      HeaderStack.shape_withoutTtls]
  | false =>
    cases action with
    | setField field => cases moved; exact HeaderStack.shape_setField _ field
    | output | group | setQueue | experimenter => cases moved; rfl
    | pushVlan | popVlan | pushMpls | popMpls => cases plain
    | _ => cases retimes

/-- How an action moves headers: it pushes or pops one, or it leaves them all in shape. -/
inductive Moves (defaults : VlanDefaults) (stack : HeaderStack) : Action → HeaderStack → Prop
  | pushVlan (etherType : UInt16) :
      Moves defaults stack (.pushVlan etherType) (stack.pushVlan etherType defaults)
  | popVlan : Moves defaults stack .popVlan stack.popVlan
  | pushMpls (etherType : UInt16) :
      Moves defaults stack (.pushMpls etherType) (stack.pushMpls etherType)
  | popMpls : Moves defaults stack .popMpls stack.popMpls
  | inPlace {action : Action} {after : HeaderStack} (plain : action.reshapes = false)
      (same : after.shape = stack.shape) : Moves defaults stack action after

theorem moves_of_transform (moved : action.transform defaults packet = .ok next) :
    Moves defaults packet.headers action next.headers := by
  cases action with
  | pushVlan etherType => cases moved; exact .pushVlan etherType
  | popVlan => cases moved; exact .popVlan
  | pushMpls etherType => cases moved; exact .pushMpls etherType
  | popMpls => cases moved; exact .popMpls
  | _ => exact .inPlace rfl (shape_of_transform rfl moved)

/-- An action leads from packets of one shape to packets of one shape. -/
theorem shape_of_transform_congr (same : packet.headers.shape = twin.headers.shape)
    (moved : action.transform defaults packet = .ok next)
    (movedToo : action.transform defaults twin = .ok nextTwin) :
    next.headers.shape = nextTwin.headers.shape := by
  cases reshapes : action.reshapes with
  | false => rw [shape_of_transform reshapes moved, shape_of_transform reshapes movedToo, same]
  | true =>
    cases action with
    | pushVlan etherType =>
      cases moved; cases movedToo
      exact HeaderStack.shape_pushVlan_congr same etherType defaults
    | popVlan => cases moved; cases movedToo; exact HeaderStack.shape_popVlan_congr same
    | pushMpls etherType =>
      cases moved; cases movedToo
      exact HeaderStack.shape_pushMpls_congr same etherType
    | popMpls => cases moved; cases movedToo; exact HeaderStack.shape_popMpls_congr same
    | _ => cases reshapes

end Action

end OpenFlow
