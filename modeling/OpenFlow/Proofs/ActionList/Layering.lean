import OpenFlow.Proofs.ActionList.Sequencing
import OpenFlow.Proofs.Header.Kinds
import OpenFlow.Sample

/-!
# Header layering

Headers are layered when an Ethernet header comes first, then the VLAN tags, then at most
one MPLS tag, then the IPv4 headers. A new MPLS tag goes in after the first VLAN tag, so
pushing it onto several VLAN tags leaves some of them beneath it; all other actions keep
the layers.
-/
namespace OpenFlow

namespace HeaderKind

/-- An Ethernet header, VLAN tags, MPLS tags, VLAN tags beneath these, and IPv4 headers. -/
def layers (vlans labels beneath ips : Nat) : List HeaderKind :=
  .ether :: (List.replicate vlans .vlan ++ List.replicate labels .mpls ++
    List.replicate beneath .vlan ++ List.replicate ips .ipv4)

variable {vlans labels beneath ips : Nat}

theorem mpls_mem_layers : .mpls ∈ layers vlans labels beneath ips ↔ labels ≠ 0 := by
  simp [layers, List.mem_replicate]

theorem vlan_mem_layers : .vlan ∈ layers vlans labels beneath ips ↔ vlans ≠ 0 ∨ beneath ≠ 0 := by
  simp [layers, List.mem_replicate]

theorem count_vlan_layers : (layers vlans labels beneath ips).count .vlan = vlans + beneath := by
  simp [layers, List.count_append, List.count_replicate]

/-- Without a label nothing tells the VLAN tags above it from those beneath. -/
theorem layers_without_label : layers vlans 0 beneath ips = layers (vlans + beneath) 0 0 ips := by
  simp [layers]

theorem insertAfter_ether_layers :
    insertAfter .ether .vlan (layers vlans labels beneath ips) =
      layers (vlans + 1) labels beneath ips := by
  simp [layers, insertAfter, List.replicate_succ]

theorem insertAfter_vlan_layers :
    insertAfter .vlan .mpls (layers (vlans + 1) 0 0 ips) = layers 1 1 vlans ips := by
  simp [layers, insertAfter, List.replicate_succ]

theorem erase_mpls_layers :
    (layers vlans labels beneath ips).erase .mpls = layers vlans (labels - 1) beneath ips := by
  cases labels with
  | zero =>
    rw [List.erase_of_not_mem (by simp [mpls_mem_layers])]
  | succ labels =>
    simp [layers, List.erase_append, List.mem_replicate, List.replicate_succ]

theorem erase_vlan_layers_succ :
    (layers (vlans + 1) labels beneath ips).erase .vlan = layers vlans labels beneath ips := by
  simp [layers, List.replicate_succ]

theorem erase_vlan_layers_zero :
    (layers 0 labels beneath ips).erase .vlan = layers 0 labels (beneath - 1) ips := by
  cases beneath with
  | zero => rw [List.erase_of_not_mem (by simp [vlan_mem_layers])]
  | succ beneath =>
    simp [layers, List.erase_append, List.mem_replicate, List.replicate_succ]

theorem idxOf_mpls_layers :
    (layers vlans (labels + 1) beneath ips).idxOf .mpls = vlans + 1 := by
  have split : layers vlans (labels + 1) beneath ips =
      (.ether :: List.replicate vlans .vlan) ++ .mpls ::
        (List.replicate labels .mpls ++ List.replicate beneath .vlan ++
          List.replicate ips .ipv4) := by
    simp [layers, List.replicate_succ]
  have outside : HeaderKind.mpls ∉ HeaderKind.ether :: List.replicate vlans .vlan := by
    simp [List.mem_replicate]
  rw [split, List.idxOf_append, if_neg outside, List.idxOf_cons_self, List.length_cons,
    List.length_replicate]
  omega

/-- VLAN tags beneath a label are not to be taken for layers. -/
theorem eq_zero_of_layers_eq {vlans' labels' ips' : Nat}
    (same : layers vlans (labels + 1) beneath ips = layers vlans' labels' 0 ips') :
    beneath = 0 := by
  have present : labels' ≠ 0 := by
    rw [← mpls_mem_layers, ← same, mpls_mem_layers]
    exact Nat.succ_ne_zero labels
  obtain ⟨labels', rfl⟩ := Nat.exists_eq_succ_of_ne_zero present
  -- The place of the label tells how many VLAN tags are above it, and their count the rest.
  have places := congrArg (List.idxOf .mpls) same
  have counts := congrArg (List.count .vlan) same
  simp only [idxOf_mpls_layers, count_vlan_layers] at places counts
  omega

end HeaderKind

open HeaderKind (layers)

namespace HeaderStack

/-- An Ethernet header, VLAN tags, at most one MPLS tag and IPv4 headers. -/
def Layered (stack : HeaderStack) : Prop :=
  ∃ vlans labels ips, labels ≤ 1 ∧ stack.kinds = layers vlans labels 0 ips

/-- As `Layered`, but VLAN tags may also stand beneath the MPLS tag. -/
def LayeredButVlans (stack : HeaderStack) : Prop :=
  ∃ vlans labels beneath ips, labels ≤ 1 ∧ stack.kinds = layers vlans labels beneath ips

variable {stack : HeaderStack} {vlans labels beneath ips : Nat}

theorem Layered.layeredButVlans (layered : stack.Layered) : stack.LayeredButVlans := by
  obtain ⟨vlans, labels, ips, single, kinds⟩ := layered
  exact ⟨vlans, labels, 0, ips, single, kinds⟩

/-- A label that is pushed onto layers goes under the first VLAN tag, if it is a new tag at all. -/
theorem kinds_pushMpls_of_layers (kinds : stack.kinds = layers vlans 0 beneath ips)
    (etherType : UInt16) :
    (stack.pushMpls etherType).kinds =
      layers (min 1 (vlans + beneath)) 1 (vlans + beneath - 1) ips := by
  rw [HeaderKind.layers_without_label] at kinds
  rw [kinds_pushMpls, kinds, if_neg (by simp [HeaderKind.mpls_mem_layers])]
  cases vlans + beneath with
  | zero =>
    rw [if_neg (by simp [HeaderKind.vlan_mem_layers])]
    simp [layers, HeaderKind.insertAfter]
  | succ vlans =>
    rw [if_pos (by simp [HeaderKind.vlan_mem_layers]), HeaderKind.insertAfter_vlan_layers]
    simp

/-- Pushing a label keeps the layers unless it starts a new tag above some of the VLAN tags. -/
theorem Layered.pushMpls_iff (layered : stack.Layered) (etherType : UInt16) :
    (stack.pushMpls etherType).Layered ↔
      .mpls ∈ stack.kinds ∨ stack.kinds.count .vlan ≤ 1 := by
  obtain ⟨vlans, labels, ips, single, kinds⟩ := layered
  rw [kinds, HeaderKind.mpls_mem_layers, HeaderKind.count_vlan_layers, Nat.add_zero]
  cases labels with
  | zero =>
    have pushed := kinds_pushMpls_of_layers kinds etherType
    constructor
    · rintro ⟨vlans', labels', ips', -, same⟩
      have none := HeaderKind.eq_zero_of_layers_eq (pushed.symm.trans same)
      exact .inr (by omega)
    · rintro (present | few)
      · exact absurd rfl present
      · rw [show vlans + 0 - 1 = 0 by omega] at pushed
        exact ⟨_, 1, ips, Nat.le_refl 1, pushed⟩
  | succ labels =>
    have pushed : (stack.pushMpls etherType).kinds = stack.kinds := by
      rw [kinds_pushMpls, if_pos (by simp [kinds, HeaderKind.mpls_mem_layers])]
    exact iff_of_true ⟨vlans, labels + 1, ips, single, pushed.trans kinds⟩
      (.inl (Nat.succ_ne_zero labels))

end HeaderStack

namespace Action

variable {defaults : VlanDefaults} {packet next : Packet} {action : Action}
variable {vlans labels beneath ips : Nat}

/-- Only a push of a new MPLS tag puts further VLAN tags beneath a label. -/
theorem layers_of_transform (single : labels ≤ 1)
    (kinds : packet.headers.kinds = layers vlans labels beneath ips)
    (moved : action.transform defaults packet = .ok next) :
    ∃ vlans' labels' beneath', labels' ≤ 1 ∧
      next.headers.kinds = layers vlans' labels' beneath' ips ∧
      (beneath' ≤ beneath ∨ ∃ etherType, action = .pushMpls etherType) := by
  cases action
  case pushVlan etherType =>
    cases moved
    have pushed := HeaderStack.kinds_pushVlan packet.headers etherType defaults
    rw [kinds, HeaderKind.insertAfter_ether_layers] at pushed
    exact ⟨vlans + 1, labels, beneath, single, pushed, .inl (Nat.le_refl beneath)⟩
  case popVlan =>
    cases moved
    have popped := HeaderStack.kinds_popVlan packet.headers
    split at popped
    · exact ⟨vlans, labels, beneath, single, popped.trans kinds, .inl (Nat.le_refl beneath)⟩
    · rw [kinds] at popped
      -- The outermost VLAN tag is one beneath the label only if none is above it.
      cases vlans with
      | zero =>
        rw [HeaderKind.erase_vlan_layers_zero] at popped
        exact ⟨0, labels, beneath - 1, single, popped, .inl (Nat.sub_le beneath 1)⟩
      | succ vlans =>
        rw [HeaderKind.erase_vlan_layers_succ] at popped
        exact ⟨vlans, labels, beneath, single, popped, .inl (Nat.le_refl beneath)⟩
  case pushMpls etherType =>
    cases moved
    cases labels with
    | zero =>
      exact ⟨_, 1, _, Nat.le_refl 1, HeaderStack.kinds_pushMpls_of_layers kinds etherType,
        .inr ⟨etherType, rfl⟩⟩
    | succ labels =>
      have pushed := HeaderStack.kinds_pushMpls packet.headers etherType
      rw [if_pos (by simp [kinds, HeaderKind.mpls_mem_layers])] at pushed
      exact ⟨vlans, labels + 1, beneath, single, pushed.trans kinds, .inl (Nat.le_refl beneath)⟩
  case popMpls =>
    cases moved
    rcases HeaderStack.kinds_popMpls packet.headers with popped | popped
    · exact ⟨vlans, labels, beneath, single, popped.trans kinds, .inl (Nat.le_refl beneath)⟩
    · rw [kinds, HeaderKind.erase_mpls_layers] at popped
      exact ⟨vlans, labels - 1, beneath, by omega, popped, .inl (Nat.le_refl beneath)⟩
  all_goals
    have same := kinds_of_transform rfl moved
    exact ⟨vlans, labels, beneath, single, same.trans kinds, .inl (Nat.le_refl beneath)⟩

theorem layeredButVlans_of_transform (layered : packet.headers.LayeredButVlans)
    (moved : action.transform defaults packet = .ok next) : next.headers.LayeredButVlans := by
  obtain ⟨vlans, labels, beneath, ips, single, kinds⟩ := layered
  obtain ⟨vlans', labels', beneath', single', kinds', -⟩ := layers_of_transform single kinds moved
  exact ⟨vlans', labels', beneath', ips, single', kinds'⟩

theorem layered_of_transform (layered : packet.headers.Layered)
    (clear : ∀ etherType, action = .pushMpls etherType →
      .mpls ∈ packet.headers.kinds ∨ packet.headers.kinds.count .vlan ≤ 1)
    (moved : action.transform defaults packet = .ok next) : next.headers.Layered := by
  obtain ⟨vlans, labels, ips, single, kinds⟩ := layered
  obtain ⟨vlans', labels', beneath', single', kinds', few | ⟨etherType, rfl⟩⟩ :=
    layers_of_transform single kinds moved
  · obtain rfl := Nat.le_zero.mp few
    exact ⟨vlans', labels', ips, single', kinds'⟩
  · cases moved
    exact (HeaderStack.Layered.pushMpls_iff ⟨vlans, labels, ips, single, kinds⟩ etherType).mpr
      (clear etherType rfl)

end Action

namespace Datapath

/-- Whenever the run gets to pushing a label, there is an MPLS tag to push it onto, or at most one
VLAN tag to put a new one under. -/
def LabelsUnderOneVlan (datapath : Datapath) (packet : Packet) (actions : List Action) : Prop :=
  ∀ before etherType after reached effects, actions = before ++ .pushMpls etherType :: after →
    (datapath.applyList packet before).result = .ok (reached, effects) →
      .mpls ∈ reached.headers.kinds ∨ reached.headers.kinds.count .vlan ≤ 1

/-- The headers are layered wherever the run gets to. -/
def LayeredThroughout (datapath : Datapath) (packet : Packet) (actions : List Action) : Prop :=
  ∀ before after reached effects, actions = before ++ after →
    (datapath.applyList packet before).result = .ok (reached, effects) → reached.headers.Layered

variable {datapath : Datapath} {packet next last : Packet} {action : Action}
variable {actions first second rest : List Action} {effects : List SideEffect}

theorem LabelsUnderOneVlan.of_append
    (clear : datapath.LabelsUnderOneVlan packet (first ++ second)) :
    datapath.LabelsUnderOneVlan packet first := by
  rintro before etherType after reached effects rfl
  exact clear before etherType (after ++ second) reached effects (by simp)

theorem labelsUnderOneVlan_cons_iff
    (moved : action.transform datapath.config.vlanDefaults packet = .ok next) :
    datapath.LabelsUnderOneVlan packet (action :: rest) ↔
      (∀ etherType, action = .pushMpls etherType →
        .mpls ∈ packet.headers.kinds ∨ packet.headers.kinds.count .vlan ≤ 1) ∧
      datapath.LabelsUnderOneVlan next rest := by
  constructor
  · intro clear
    refine ⟨?_, ?_⟩
    · rintro etherType rfl
      exact clear [] etherType rest packet [] rfl rfl
    · rintro before etherType after reached effects rfl returned
      refine clear (action :: before) etherType after reached (action.effects packet ++ effects)
        rfl ?_
      rw [applyList_cons_of_ok moved, returned]
      rfl
  · rintro ⟨head, later⟩ before etherType after reached effects split returned
    cases before with
    | nil =>
      cases split
      cases returned
      exact head etherType rfl
    | cons first before =>
      cases split
      obtain ⟨other, late, movedToo, reaches, -, -⟩ := applyList_cons_cases returned
      cases moved.symm.trans movedToo
      exact later before etherType after reached late rfl reaches

theorem layered_of_applyList (layered : packet.headers.Layered)
    (clear : datapath.LabelsUnderOneVlan packet actions)
    (succeeded : (datapath.applyList packet actions).result = .ok (last, effects)) :
    last.headers.Layered := by
  -- The layers carry over from each action to the rest, which is clear from where it starts.
  induction actions generalizing packet effects with
  | nil =>
    cases succeeded
    exact layered
  | cons action rest ih =>
    obtain ⟨next, late, moved, returned, -, -⟩ := applyList_cons_cases succeeded
    obtain ⟨head, later⟩ := (labelsUnderOneVlan_cons_iff moved).mp clear
    exact ih (Action.layered_of_transform layered head moved) later returned

/-- The layers are lost exactly where a new MPLS tag meets several VLAN tags. -/
theorem layeredThroughout_iff (layered : packet.headers.Layered) :
    datapath.LayeredThroughout packet actions ↔ datapath.LabelsUnderOneVlan packet actions := by
  constructor
  · rintro kept before etherType after reached effects rfl returned
    -- The headers are layered before the push and after it, so it was no push between VLAN tags.
    have start := kept before _ reached effects rfl returned
    have pushed : (datapath.applyList packet (before ++ [.pushMpls etherType])).result =
        .ok (reached.mapHeaders (·.pushMpls etherType), effects ++ []) := by
      rw [applyList_append_of_ok returned]
      rfl
    have finish := kept _ after _ _ (by simp) pushed
    exact (start.pushMpls_iff etherType).mp finish
  · rintro clear before after reached effects rfl returned
    exact layered_of_applyList layered clear.of_append returned

/-- Headers that are layered stay so but for VLAN tags beneath a label. These come from pushing a
new MPLS tag onto several VLAN tags, and from nothing else. -/
theorem applyList_layered (datapath : Datapath) (packet last : Packet)
    (layered : packet.headers.Layered) (actions : List Action) (effects : List SideEffect)
    (succeeded : (datapath.applyList packet actions).result = .ok (last, effects)) :
    last.headers.LayeredButVlans ∧
    (datapath.LabelsUnderOneVlan packet actions → last.headers.Layered) ∧
    (datapath.LayeredThroughout packet actions ↔ datapath.LabelsUnderOneVlan packet actions) := by
  refine ⟨?_, fun clear => layered_of_applyList layered clear succeeded,
    layeredThroughout_iff layered⟩
  refine (applyList_keeps (fun packet => packet.headers.LayeredButVlans) ?_
    layered.layeredButVlans succeeded).1
  intro action packet next kept moved
  exact Action.layeredButVlans_of_transform kept moved

/-- The tag goes in while there is one VLAN tag; with the next two a label is duplicated. -/
theorem applyList_layered_label_before_vlans :
    let packet := Sample.packet [Sample.ether, Sample.vlan 5 0, Sample.vlan 6 0, Sample.ipv4 9]
    let actions := [.popVlan, .pushMpls EtherType.mpls, .pushVlan EtherType.vlan,
      .pushVlan EtherType.qinq, .pushMpls EtherType.mpls]
    packet.headers.Layered ∧ LabelsUnderOneVlan {} packet actions ∧
    ∃ last effects, (applyList {} packet actions).result = .ok (last, effects) ∧
      last.headers.kinds = [.ether, .vlan, .vlan, .vlan, .mpls, .ipv4] ∧
      last.headers.Layered := by
  intro packet actions
  have layered : packet.headers.Layered := ⟨2, 0, 1, by decide, rfl⟩
  have clear : LabelsUnderOneVlan {} packet actions := by
    refine (labelsUnderOneVlan_cons_iff rfl).mpr ⟨by simp, ?_⟩
    refine (labelsUnderOneVlan_cons_iff rfl).mpr ⟨fun _ _ => .inr (by decide), ?_⟩
    refine (labelsUnderOneVlan_cons_iff rfl).mpr ⟨by simp, ?_⟩
    refine (labelsUnderOneVlan_cons_iff rfl).mpr ⟨by simp, ?_⟩
    refine (labelsUnderOneVlan_cons_iff rfl).mpr ⟨fun _ _ => .inl (by decide), ?_⟩
    intro before _ _ _ _ split
    simp at split
  exact ⟨layered, clear, _, _, rfl, rfl,
    (applyList_layered {} packet _ layered actions _ rfl).2.1 clear⟩

/-- Pushed onto two VLAN tags, the label goes in between them. -/
theorem not_layered_of_label_on_stacked_vlans :
    let packet := Sample.packet [Sample.ether, Sample.vlan 5 0, Sample.vlan 6 0, Sample.ipv4 9]
    packet.headers.Layered ∧
    ∃ last effects,
      (applyList {} packet [.pushMpls EtherType.mpls]).result = .ok (last, effects) ∧
      last.headers.kinds = [.ether, .vlan, .mpls, .vlan, .ipv4] ∧ ¬ last.headers.Layered := by
  intro packet
  refine ⟨⟨2, 0, 1, by decide, rfl⟩, _, _, rfl, rfl, ?_⟩
  rintro ⟨vlans, labels, ips, -, kinds⟩
  have between : layers 1 1 1 1 = layers vlans labels 0 ips := kinds
  exact absurd (HeaderKind.eq_zero_of_layers_eq between) (by decide)

end Datapath

end OpenFlow
