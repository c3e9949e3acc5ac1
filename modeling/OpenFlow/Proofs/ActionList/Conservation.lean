import OpenFlow.Proofs.ActionList.Bracket
import OpenFlow.Proofs.Header.Kinds

/-!
# Headers are conserved

Nothing is lost or made on the way but what is pushed and popped. Under an Ethernet header
each push adds one VLAN tag or one label and each pop takes one away, if there is any; the
other headers stay as many as they were and in their order, and labels are gathered in the
MPLS tag that is there.
-/
namespace OpenFlow

namespace HeaderKind

/-- Headers of the kind are neither pushed nor popped. -/
def fixed : HeaderKind → Bool
  | .ether | .ipv4 => true
  | .vlan | .mpls => false

variable {anchor new kind : HeaderKind} {kinds : List HeaderKind}

theorem filter_fixed_insertAfter (moving : new.fixed = false) :
    (insertAfter anchor new kinds).filter fixed = kinds.filter fixed := by
  by_cases present : anchor ∈ kinds
  · obtain ⟨front, back, rfl, first⟩ := List.eq_append_cons_of_mem present
    rw [insertAfter_append first]
    simp [List.filter_append, List.filter_cons, moving]
  · rw [insertAfter_of_not_mem present]

theorem filter_fixed_erase (moving : kind.fixed = false) :
    (kinds.erase kind).filter fixed = kinds.filter fixed := by
  rw [← List.erase_filter, List.erase_of_not_mem]
  simp [List.mem_filter, moving]

end HeaderKind

/-- How many labels there are in a header of the shape. -/
def HeaderShape.labels : HeaderShape → Nat
  | .mpls labels => labels
  | .ether | .vlan | .ipv4 => 0

/-- The labels of an MPLS tag, outermost first; other tags have none. -/
def HeaderTag.labels : HeaderTag → List LabelEntry
  | .mpls tag => tag.entries
  | .ether _ | .vlan _ | .ipv4 _ => []

theorem HeaderTag.length_labels (tag : HeaderTag) : tag.labels.length = tag.shape.labels := by
  cases tag <;> rfl

namespace HeaderStack

/-- The labels of all MPLS tags, outermost first. -/
def labels (stack : HeaderStack) : List LabelEntry := stack.tags.flatMap HeaderTag.labels

variable {stack twin : HeaderStack} {kind : HeaderKind}

theorem labels_of_lacks (lacks : .mpls ∉ stack.kinds) : stack.labels = [] := by
  refine List.flatMap_eq_nil_iff.mpr fun tag inside => ?_
  cases tag with
  | mpls tag => exact absurd (List.mem_map_of_mem inside) lacks
  | _ => rfl

theorem length_labels_congr (same : stack.shape = twin.shape) :
    stack.labels.length = twin.labels.length := by
  -- Counted tag by tag, the labels are those that the shape tells of.
  have counted (stack : HeaderStack) :
      stack.labels.length = (stack.shape.map HeaderShape.labels).sum := by
    simp only [labels, List.length_flatMap, HeaderTag.length_labels, shape, List.map_map,
      Function.comp_def]
  rw [counted, counted, same]

/-- The labels of a stack change by as many as those of the tag that is edited. -/
theorem length_labels_editFirst {edit : HeaderTag → Edit} {gained lost : Nat}
    (present : kind ∈ stack.kinds ∨ gained = lost)
    (balance : ∀ tag, tag.kind = kind →
      ((edit tag).tags.flatMap HeaderTag.labels).length + lost = tag.labels.length + gained) :
    (stack.editFirst kind edit).labels.length + lost = stack.labels.length + gained := by
  rcases stack.lacks_or_first kind with lacks | ⟨outer, tag, inner, rfl, found, first⟩
  · rw [editFirst_of_lacks lacks, present.resolve_left lacks]
  · -- The tags outside and inside count the same on both sides.
    have changed := balance tag found
    rw [editFirst_first first found]
    simp only [labels, List.flatMap_append, List.flatMap_cons, List.length_append]
    omega

/-- An inserted tag brings its labels along, if there is a tag to insert it after. -/
theorem length_labels_insertAfter {new : HeaderTag}
    (present : kind ∈ stack.kinds ∨ new.labels.length = 0) :
    (stack.editFirst kind fun tag => .insertAfter tag new).labels.length =
      stack.labels.length + new.labels.length := by
  change _ + 0 = _
  exact length_labels_editFirst present fun tag _ => by simp [Edit.tags]

theorem length_labels_pushVlan (stack : HeaderStack) (etherType : UInt16)
    (defaults : VlanDefaults) :
    (stack.pushVlan etherType defaults).labels.length = stack.labels.length := by
  obtain ⟨new, pushed⟩ := stack.pushVlan_eq_insertAfter etherType defaults
  rw [pushed]
  exact length_labels_insertAfter (.inr rfl)

theorem length_labels_popVlan (stack : HeaderStack) :
    stack.popVlan.labels.length = stack.labels.length := by
  unfold popVlan
  split
  · rfl
  · change _ + 0 = _ + 0
    refine length_labels_editFirst (.inr rfl) fun tag vlan => ?_
    cases tag with
    | vlan tag => rfl
    | _ => cases vlan

/-- A new label has a header to go in after, a VLAN tag or else the Ethernet header. -/
theorem anchor_mem (ether : .ether ∈ stack.kinds) :
    (if .vlan ∈ stack.kinds then .vlan else .ether) ∈ stack.kinds := by
  split
  next vlan => exact vlan
  next => exact ether

theorem length_labels_pushMpls (ether : .ether ∈ stack.kinds) (etherType : UInt16) :
    (stack.pushMpls etherType).labels.length = stack.labels.length + 1 := by
  simp only [pushMpls, contains_iff]
  split
  next present =>
    change _ + 0 = _
    refine length_labels_editFirst (.inl present) fun tag mpls => ?_
    cases tag with
    | mpls tag => simp [duplicateLabel, Edit.tags, HeaderTag.labels, MplsTag.entries_push]
    | _ => cases mpls
  next => exact length_labels_insertAfter (.inl (anchor_mem ether))

theorem length_labels_popMpls (stack : HeaderStack) :
    stack.popMpls.labels.length = stack.labels.length - 1 := by
  by_cases present : .mpls ∈ stack.kinds
  · refine Nat.eq_sub_of_add_eq ?_
    change _ = _ + 0
    refine length_labels_editFirst (.inl present) fun tag mpls => ?_
    cases tag with
    | mpls tag =>
      -- The last label of a tag takes the tag along.
      obtain ⟨etherType, outermost, inner⟩ := tag
      cases inner with
      | nil => rfl
      | cons next others => simp [dropLabel, MplsTag.pop?, Edit.tags, HeaderTag.labels,
          MplsTag.entries]
    | _ => cases mpls
  · rw [popMpls, editFirst_of_lacks present, labels_of_lacks present, List.length_nil]

theorem kinds_pushVlan_perm (ether : .ether ∈ stack.kinds) (etherType : UInt16)
    (defaults : VlanDefaults) :
    (stack.pushVlan etherType defaults).kinds.Perm (.vlan :: stack.kinds) := by
  rw [kinds_pushVlan]
  exact HeaderKind.insertAfter_perm ether

/-- A new tag brings in its kind only, and a label on a tag that is there brings in none. -/
theorem kinds_pushMpls_perm (ether : .ether ∈ stack.kinds) (etherType : UInt16) :
    (stack.pushMpls etherType).kinds.Perm
      (if .mpls ∈ stack.kinds then stack.kinds else .mpls :: stack.kinds) := by
  rw [kinds_pushMpls]
  split
  next => exact .refl _
  next => exact HeaderKind.insertAfter_perm (anchor_mem ether)

theorem count_vlan_popVlan (ether : .ether ∈ stack.kinds) :
    stack.popVlan.kinds.count .vlan = stack.kinds.count .vlan - 1 := by
  rw [kinds_popVlan]
  split
  next small =>
    -- The last header is the Ethernet header, so there is no VLAN tag to keep back.
    have single : stack.kinds.length = 1 :=
      Nat.le_antisymm small (List.length_pos_of_mem ether)
    obtain ⟨kind, only⟩ := List.length_eq_one_iff.mp single
    rw [only] at ether ⊢
    rw [← List.mem_singleton.mp ether]
    rfl
  next => exact List.count_erase_self

theorem count_vlan_pushMpls (ether : .ether ∈ stack.kinds) (etherType : UInt16) :
    (stack.pushMpls etherType).kinds.count .vlan = stack.kinds.count .vlan := by
  rw [(kinds_pushMpls_perm ether etherType).count_eq]
  split
  · rfl
  · exact List.count_cons_of_ne (by decide)

theorem count_vlan_popMpls (stack : HeaderStack) :
    stack.popMpls.kinds.count .vlan = stack.kinds.count .vlan := by
  rcases kinds_popMpls stack with same | erased
  · rw [same]
  · rw [erased, List.count_erase_of_ne (by decide)]

theorem count_mpls_pushMpls (ether : .ether ∈ stack.kinds) (etherType : UInt16) :
    (stack.pushMpls etherType).kinds.count .mpls ≤ max 1 (stack.kinds.count .mpls) := by
  rw [(kinds_pushMpls_perm ether etherType).count_eq]
  split
  next => exact Nat.le_max_right _ _
  next absent =>
    -- The new tag is the only one.
    rw [List.count_cons_self, List.count_eq_zero.mpr absent]
    exact Nat.le_max_left _ _

end HeaderStack

/-! ### Accounts of pushes and pops -/

namespace Encapsulation

/-- How many labels, or how many VLAN tags, a stack holds. -/
def amount : Encapsulation → HeaderStack → Nat
  | .mpls, stack => stack.labels.length
  | .vlan, stack => stack.kinds.count .vlan

/-- A push adds one, and a pop takes one away unless there is none. -/
def tally : Encapsulation → Nat → Action → Nat
  | .mpls, count, .pushMpls _ | .vlan, count, .pushVlan _ => count + 1
  | .mpls, count, .popMpls | .vlan, count, .popVlan => count - 1
  | _, count, _ => count

theorem tally_of_plain (tag : Encapsulation) {action : Action} (plain : action.reshapes = false)
    (count : Nat) : tag.tally count action = count := by
  cases tag <;> cases action <;> first | rfl | cases plain

theorem amount_congr (tag : Encapsulation) {stack twin : HeaderStack}
    (same : stack.shape = twin.shape) : tag.amount stack = tag.amount twin := by
  cases tag with
  | mpls => exact HeaderStack.length_labels_congr same
  | vlan => simp only [amount, HeaderStack.kinds_congr same]

end Encapsulation

namespace Action.Moves

variable {defaults : VlanDefaults} {stack after : HeaderStack} {action : Action}

theorem filter_fixed (moves : Moves defaults stack action after) :
    after.kinds.filter HeaderKind.fixed = stack.kinds.filter HeaderKind.fixed := by
  cases moves with
  | pushVlan etherType =>
    rw [HeaderStack.kinds_pushVlan, HeaderKind.filter_fixed_insertAfter rfl]
  | popVlan =>
    rw [HeaderStack.kinds_popVlan]
    split
    · rfl
    · exact HeaderKind.filter_fixed_erase rfl
  | pushMpls etherType =>
    rw [HeaderStack.kinds_pushMpls]
    split
    · rfl
    · exact HeaderKind.filter_fixed_insertAfter rfl
  | popMpls =>
    rcases HeaderStack.kinds_popMpls stack with same | erased
    · rw [same]
    · rw [erased, HeaderKind.filter_fixed_erase rfl]
  | inPlace plain same => rw [HeaderStack.kinds_congr same]

theorem ether_mem (moves : Moves defaults stack action after) (ether : .ether ∈ stack.kinds) :
    .ether ∈ after.kinds := by
  -- The Ethernet header is one of those that are neither pushed nor popped.
  have kept : .ether ∈ stack.kinds.filter HeaderKind.fixed := List.mem_filter.mpr ⟨ether, rfl⟩
  rw [← moves.filter_fixed] at kept
  exact (List.mem_filter.mp kept).1

theorem count_mpls_le (moves : Moves defaults stack action after)
    (ether : .ether ∈ stack.kinds) :
    after.kinds.count .mpls ≤ max 1 (stack.kinds.count .mpls) := by
  cases moves with
  | pushVlan etherType =>
    rw [(HeaderStack.kinds_pushVlan_perm ether etherType defaults).count_eq,
      List.count_cons_of_ne (by decide)]
    exact Nat.le_max_right _ _
  | popVlan =>
    have fewer := stack.kinds_popVlan_sublist.count_le HeaderKind.mpls
    exact Nat.le_trans fewer (Nat.le_max_right _ _)
  | pushMpls etherType => exact HeaderStack.count_mpls_pushMpls ether etherType
  | popMpls =>
    have fewer := stack.kinds_popMpls_sublist.count_le HeaderKind.mpls
    exact Nat.le_trans fewer (Nat.le_max_right _ _)
  | inPlace plain same =>
    rw [HeaderStack.kinds_congr same]
    exact Nat.le_max_right _ _

/-- An action changes the amount as it is accounted for. -/
theorem amount_eq_tally (moves : Moves defaults stack action after) (tag : Encapsulation)
    (ether : .ether ∈ stack.kinds) : tag.amount after = tag.tally (tag.amount stack) action := by
  cases moves with
  | pushVlan etherType =>
    cases tag with
    | mpls => exact HeaderStack.length_labels_pushVlan stack etherType defaults
    | vlan =>
      have pushed := HeaderStack.kinds_pushVlan_perm ether etherType defaults
      exact (pushed.count_eq _).trans List.count_cons_self
  | popVlan =>
    cases tag with
    | mpls => exact HeaderStack.length_labels_popVlan stack
    | vlan => exact HeaderStack.count_vlan_popVlan ether
  | pushMpls etherType =>
    cases tag with
    | mpls => exact HeaderStack.length_labels_pushMpls ether etherType
    | vlan => exact HeaderStack.count_vlan_pushMpls ether etherType
  | popMpls =>
    cases tag with
    | mpls => exact HeaderStack.length_labels_popMpls stack
    | vlan => exact HeaderStack.count_vlan_popMpls stack
  | inPlace plain same => rw [tag.tally_of_plain plain, tag.amount_congr same]

end Action.Moves

namespace Datapath

variable {datapath : Datapath} {packet last : Packet}
variable {actions : List Action} {effects : List SideEffect}

theorem filter_fixed_of_applyList
    (succeeded : (datapath.applyList packet actions).result = .ok (last, effects)) :
    last.headers.kinds.filter HeaderKind.fixed =
      packet.headers.kinds.filter HeaderKind.fixed :=
  (applyList_keeps
    (fun reached => reached.headers.kinds.filter HeaderKind.fixed =
      packet.headers.kinds.filter HeaderKind.fixed)
    (fun _ _ _ same moved => (Action.moves_of_transform moved).filter_fixed.trans same)
    rfl succeeded).1

theorem amounts_of_applyList (ether : .ether ∈ packet.headers.kinds)
    (succeeded : (datapath.applyList packet actions).result = .ok (last, effects)) :
    (∀ tag : Encapsulation,
      tag.amount last.headers = actions.foldl tag.tally (tag.amount packet.headers)) ∧
    last.headers.kinds.count .mpls ≤ max 1 (packet.headers.kinds.count .mpls) := by
  -- The Ethernet header that the first action finds is still there for the rest.
  induction actions generalizing packet effects with
  | nil =>
    cases succeeded
    exact ⟨fun _ => rfl, Nat.le_max_right _ _⟩
  | cons action rest ih =>
    obtain ⟨next, late, moved, returned, -, -⟩ := applyList_cons_cases succeeded
    have moves := Action.moves_of_transform moved
    obtain ⟨amounts, tags⟩ := ih (moves.ether_mem ether) returned
    refine ⟨fun tag => ?_, ?_⟩
    · rw [amounts tag, moves.amount_eq_tally tag ether, List.foldl_cons]
    · have step := moves.count_mpls_le ether
      omega

/-- Under an Ethernet header a run keeps the Ethernet and IPv4 headers in their order and number.
Its VLAN tags and labels are those it met and pushed less those it popped, and it gathers labels
in no more than one MPLS tag, or as many as there were. -/
theorem applyList_conserves_headers (datapath : Datapath) (packet last : Packet)
    (actions : List Action) (effects : List SideEffect)
    (ether : .ether ∈ packet.headers.kinds)
    (succeeded : (datapath.applyList packet actions).result = .ok (last, effects)) :
    last.headers.kinds.filter HeaderKind.fixed =
      packet.headers.kinds.filter HeaderKind.fixed ∧
    last.headers.kinds.count .vlan =
      actions.foldl Encapsulation.vlan.tally (packet.headers.kinds.count .vlan) ∧
    last.headers.labels.length =
      actions.foldl Encapsulation.mpls.tally packet.headers.labels.length ∧
    last.headers.kinds.count .mpls ≤ max 1 (packet.headers.kinds.count .mpls) := by
  obtain ⟨amounts, tags⟩ := amounts_of_applyList ether succeeded
  exact ⟨filter_fixed_of_applyList succeeded, amounts .vlan, amounts .mpls, tags⟩

/-- Two VLAN tags and a label are popped where there is one VLAN tag, then two labels pushed. -/
theorem applyList_conserves_headers_popped_empty :
    let start := Sample.packet [Sample.ipv4 9, Sample.ether, Sample.vlan 5 0, Sample.ipv4 3]
    let actions := [.popMpls, .popVlan, .popVlan, .pushMpls EtherType.mpls,
      .pushMpls EtherType.mpls]
    .ether ∈ start.headers.kinds ∧
    ∃ last effects, (applyList {} start actions).result = .ok (last, effects) ∧
      last.headers.kinds.filter HeaderKind.fixed = [.ipv4, .ether, .ipv4] ∧
      last.headers.kinds.count .vlan = 0 ∧ last.headers.labels.length = 2 ∧
      last.headers.kinds.count .mpls ≤ 1 := by
  intro start actions
  have ether : .ether ∈ start.headers.kinds := by decide
  let label (bos : Bool) : LabelEntry := ⟨0, 0, bos, 9⟩
  have succeeded : (applyList {} start actions).result = .ok
      (Sample.packet [Sample.ipv4 9, Sample.ether,
        .mpls ⟨EtherType.mpls, label false, [label true]⟩, Sample.ipv4 3], []) := rfl
  have tags : actions.foldl Encapsulation.vlan.tally (start.headers.kinds.count .vlan) = 0 := rfl
  have labels :
      actions.foldl Encapsulation.mpls.tally start.headers.labels.length = 2 := rfl
  obtain ⟨fixed, vlans, pushed, single⟩ :=
    applyList_conserves_headers {} start _ actions _ ether succeeded
  exact ⟨ether, _, _, succeeded, fixed, vlans.trans tags, pushed.trans labels, single⟩

end Datapath

end OpenFlow
