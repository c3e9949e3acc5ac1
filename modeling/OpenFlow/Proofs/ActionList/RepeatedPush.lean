import Mathlib.Data.List.Basic
import OpenFlow.Proofs.ActionList.TtlBudget

/-!
# Pushing again and again

A push of a label finds what the pushes before it have made: the first of them may have to bring
in a tag, and every other puts one more copy of the outermost label onto it. A pushed VLAN tag
goes in right under the Ethernet header, outside the tags pushed before it, and all of a row of
pushes take the identity that the first of them found.
-/
namespace OpenFlow

/-! ### Labels -/

namespace HeaderStack

variable {stack : HeaderStack} {outer inner : List HeaderTag} {anchor : HeaderTag}

/-- The ether types of labels that go onto a tag do not matter, it keeps its own. -/
theorem foldl_pushMpls_first (tag : MplsTag) (first : .mpls ∉ outer.map HeaderTag.kind)
    (inner : List HeaderTag) (etherTypes : List UInt16) :
    ∃ pushed : MplsTag, etherTypes.foldl pushMpls ⟨outer ++ .mpls tag :: inner⟩ =
        ⟨outer ++ .mpls pushed :: inner⟩ ∧
      pushed.etherType = tag.etherType ∧
      pushed.entries =
        List.replicate etherTypes.length { tag.outermost with bos := false } ++ tag.entries := by
  induction etherTypes generalizing tag with
  | nil => exact ⟨tag, rfl, rfl, rfl⟩
  | cons etherType rest ih =>
    -- The copy on top is what the next push copies, and its bit is cleared already.
    obtain ⟨pushed, folded, same, entries⟩ := ih (tag.push { tag.outermost with bos := false })
    refine ⟨pushed, ?_, same, ?_⟩
    · rw [List.foldl_cons, pushMpls_first tag first]
      exact folded
    · rw [entries, List.length_cons, List.replicate_succ', List.append_assoc]
      rfl

/-- The label of a new tag takes the first of the IPv4 headers' times to live. -/
theorem ipv4Ttl_eq (stack : HeaderStack) : stack.ipv4Ttl = stack.ipv4Ttls.head?.getD 0 := by
  rw [← ttl?_ipv4]
  rfl

theorem foldl_pushMpls_of_mem (present : .mpls ∈ stack.kinds) (etherTypes : List UInt16) :
    ∃ outer tag inner pushed, stack = ⟨outer ++ .mpls tag :: inner⟩ ∧
      .mpls ∉ outer.map HeaderTag.kind ∧
      etherTypes.foldl pushMpls stack = ⟨outer ++ .mpls pushed :: inner⟩ ∧
      pushed.etherType = tag.etherType ∧
      pushed.entries =
        List.replicate etherTypes.length { tag.outermost with bos := false } ++ tag.entries := by
  rcases stack.lacks_or_first .mpls with lacks | ⟨outer, tag, inner, rfl, own, first⟩
  · exact absurd present lacks
  · cases tag with
    | mpls tag =>
      obtain ⟨pushed, onTop⟩ := foldl_pushMpls_first tag first inner etherTypes
      exact ⟨outer, tag, inner, pushed, rfl, first, onTop⟩
    | _ => cases own

/-- The first push inserts a tag with one label, and the others add theirs to it. -/
theorem foldl_pushMpls_of_lacks (lacks : .mpls ∉ stack.kinds)
    (anchored : .vlan ∈ stack.kinds ∨ .ether ∈ stack.kinds) (etherType : UInt16)
    (more : List UInt16) :
    let ttl := stack.ipv4Ttls.head?.getD 0
    ∃ outer anchor inner pushed, stack = ⟨outer ++ anchor :: inner⟩ ∧
      anchor.kind = (if .vlan ∈ stack.kinds then .vlan else .ether) ∧
      anchor.kind ∉ outer.map HeaderTag.kind ∧
      (etherType :: more).foldl pushMpls stack = ⟨outer ++ anchor :: .mpls pushed :: inner⟩ ∧
      pushed.etherType = etherType ∧
      pushed.entries = List.replicate more.length ⟨0, 0, false, ttl⟩ ++ [⟨0, 0, true, ttl⟩] := by
  intro ttl
  have there : (if .vlan ∈ stack.kinds then .vlan else .ether) ∈ stack.kinds := by
    split
    next vlan => exact vlan
    next none => exact anchored.resolve_left none
  have inserted := pushMpls_of_lacks lacks etherType
  rw [ipv4Ttl_eq] at inserted
  rcases stack.lacks_or_first (if .vlan ∈ stack.kinds then .vlan else .ether) with
    none | ⟨outer, anchor, inner, rfl, own, first⟩
  · exact absurd there none
  · -- The new tag is the first MPLS tag, since there was none.
    have none : .mpls ∉ (outer ++ [anchor]).map HeaderTag.kind := by
      intro member
      apply lacks
      rw [kinds, List.append_cons, List.map_append]
      exact List.mem_append_left _ member
    rw [insertAfter_first first own] at inserted
    obtain ⟨pushed, folded, same, entries⟩ :=
      foldl_pushMpls_first (.single etherType ⟨0, 0, true, ttl⟩) none inner more
    refine ⟨outer, anchor, inner, pushed, rfl, own, own ▸ first, ?_, same, entries⟩
    rw [← List.append_cons, ← List.append_cons] at folded
    rw [List.foldl_cons, inserted, folded]

theorem foldl_pushMpls_of_bare (mpls : .mpls ∉ stack.kinds) (vlan : .vlan ∉ stack.kinds)
    (ether : .ether ∉ stack.kinds) (etherTypes : List UInt16) :
    etherTypes.foldl pushMpls stack = stack := by
  -- There is nothing to insert a tag after, so each push leaves the stack as it finds it.
  refine List.foldl_fixed' (fun etherType => ?_) etherTypes
  rw [pushMpls_of_lacks mpls, if_neg vlan, editFirst_of_lacks ether]

end HeaderStack

/-! ### VLAN tags -/

def HeaderTag.vlan? : HeaderTag → Option VlanTag
  | .vlan tag => some tag
  | .ether _ | .mpls _ | .ipv4 _ => none

/-- A tag with the default identity. -/
def VlanDefaults.tag (defaults : VlanDefaults) : VlanTag :=
  { pcp := defaults.pcp, vid := defaults.vid, etherType := 0 }

namespace HeaderStack

/-- The VLAN tags, outermost first. -/
def vlanTags (stack : HeaderStack) : List VlanTag := stack.tags.filterMap HeaderTag.vlan?

variable {stack : HeaderStack} {outer inner : List HeaderTag} {ether : HeaderTag}
variable {defaults : VlanDefaults}

/-- A pushed tag inherits from the first VLAN tag of the stack, or takes the defaults. -/
theorem vlanIdentity_eq (stack : HeaderStack) (defaults : VlanDefaults) :
    stack.vlanIdentity defaults =
      ((stack.vlanTags.headD defaults.tag).vid, (stack.vlanTags.headD defaults.tag).pcp) := by
  have others (tag : HeaderTag) (other : tag.kind ≠ .vlan) : tag.vlan? = none := by
    cases tag with
    | vlan tag => exact absurd rfl other
    | _ => rfl
  rcases stack.lacks_or_first .vlan with lacks | ⟨outer, tag, inner, rfl, vlan, first⟩
  · rw [vlanIdentity, find, findNth, on?_of_lacks lacks, vlanTags, filterMap_of_lacks others lacks]
    rfl
  · cases tag with
    | vlan tag =>
      rw [vlanIdentity, find, findNth, on?_first first vlan, vlanTags, List.filterMap_append,
        filterMap_of_lacks others first]
      rfl
    | _ => cases vlan

theorem pushVlan_first (first : .ether ∉ outer.map HeaderTag.kind) (own : ether.kind = .ether)
    (etherType : UInt16) (defaults : VlanDefaults) :
    pushVlan ⟨outer ++ ether :: inner⟩ etherType defaults =
      ⟨outer ++ ether :: .vlan
        { (vlanTags ⟨outer ++ ether :: inner⟩).headD defaults.tag with etherType } :: inner⟩ := by
  rw [pushVlan, vlanIdentity_eq]
  exact insertAfter_first first own _

theorem vlanTags_append (own : ether.kind = .ether) (inner : List HeaderTag) :
    vlanTags ⟨outer ++ ether :: inner⟩ = vlanTags ⟨outer⟩ ++ vlanTags ⟨inner⟩ := by
  have silent : ether.vlan? = none := by
    cases ether with
    | ether header => rfl
    | _ => cases own
  rw [vlanTags, List.filterMap_append, List.filterMap_cons_none silent]
  rfl

/-- A push hands on the identity that it inherited. -/
theorem headD_vlanTags_inserted (own : ether.kind = .ether) (early late : UInt16) :
    let found := (vlanTags ⟨outer ++ ether :: inner⟩).headD defaults.tag
    let after := vlanTags ⟨outer ++ ether :: .vlan { found with etherType := early } :: inner⟩
    { after.headD defaults.tag with etherType := late } =
      { found with etherType := late } := by
  intro found after
  have split : after = vlanTags ⟨outer⟩ ++ { found with etherType := early } :: vlanTags ⟨inner⟩ :=
    vlanTags_append own _
  rw [split]
  -- A VLAN tag outside the Ethernet header is found before the new one, and else the new one is.
  cases outside : vlanTags ⟨outer⟩ with
  | nil => rfl
  | cons tag others => simp [found, vlanTags_append own, outside]

theorem foldl_pushVlan_first (first : .ether ∉ outer.map HeaderTag.kind)
    (own : ether.kind = .ether) (defaults : VlanDefaults) (etherTypes : List UInt16) :
    let found := (vlanTags ⟨outer ++ ether :: inner⟩).headD defaults.tag
    etherTypes.foldl (fun (stack : HeaderStack) etherType => stack.pushVlan etherType defaults)
        ⟨outer ++ ether :: inner⟩ =
      ⟨outer ++ ether ::
        ((etherTypes.reverse.map fun etherType => .vlan { found with etherType }) ++ inner)⟩ := by
  -- The tags pushed so far stand right under the Ethernet header, so they are part of `inner`.
  induction etherTypes generalizing inner with
  | nil => exact rfl
  | cons etherType rest ih =>
    intro found
    rw [List.foldl_cons, pushVlan_first first own, ih, List.reverse_cons, List.map_append,
      List.append_assoc]
    simp only [headD_vlanTags_inserted own]
    rfl

theorem foldl_pushVlan_of_mem (present : .ether ∈ stack.kinds) (defaults : VlanDefaults)
    (etherTypes : List UInt16) :
    let found := stack.vlanTags.headD defaults.tag
    ∃ outer ether inner, stack = ⟨outer ++ ether :: inner⟩ ∧ ether.kind = .ether ∧
      .ether ∉ outer.map HeaderTag.kind ∧
      etherTypes.foldl (fun (stack : HeaderStack) etherType => stack.pushVlan etherType defaults)
          stack =
        ⟨outer ++ ether ::
          ((etherTypes.reverse.map fun etherType => .vlan { found with etherType }) ++ inner)⟩ := by
  rcases stack.lacks_or_first .ether with lacks | ⟨outer, ether, inner, rfl, own, first⟩
  · exact absurd present lacks
  · exact ⟨outer, ether, inner, rfl, own, first,
      foldl_pushVlan_first first own defaults etherTypes⟩

theorem foldl_pushVlan_of_lacks (lacks : .ether ∉ stack.kinds) (defaults : VlanDefaults)
    (etherTypes : List UInt16) :
    etherTypes.foldl (fun (stack : HeaderStack) etherType => stack.pushVlan etherType defaults)
      stack = stack := by
  refine List.foldl_fixed' (fun etherType => ?_) etherTypes
  obtain ⟨new, pushed⟩ := stack.pushVlan_eq_insertAfter etherType defaults
  rw [pushed, editFirst_of_lacks lacks]

end HeaderStack

/-! ### Lists of pushes -/

theorem Packet.foldl_mapHeaders {α : Type} (step : HeaderStack → α → HeaderStack) (packet : Packet)
    (values : List α) :
    values.foldl (fun packet value => packet.mapHeaders (step · value)) packet =
      packet.mapHeaders fun headers => values.foldl step headers := by
  induction values generalizing packet with
  | nil => rfl
  | cons value rest ih => exact ih (packet.mapHeaders (step · value))

namespace Datapath

/-- Actions that only change the headers leave the rest of the packet and no event. -/
theorem applyList_map_of_headers {α : Type} (datapath : Datapath) (action : α → Action)
    (step : HeaderStack → α → HeaderStack)
    (steps : ∀ value packet,
      datapath.applyAction (action value) packet = pure (packet.mapHeaders (step · value)))
    (silent : ∀ value packet, (action value).effects packet = []) (packet : Packet)
    (values : List α) :
    datapath.applyList packet (values.map action) =
      ⟨[], .ok ({ packet with headers := values.foldl step packet.headers }, [])⟩ := by
  rw [applyList_map_of_pure action (fun packet value => packet.mapHeaders (step · value))
    (fun value _ => steps value) (fun value _ => silent value), Packet.foldl_mapHeaders]
  rfl

/-- Any number of label pushes leave one packet and no event. If there is an MPLS tag, the first
one gets that many copies of its outermost label on top, none of them marked as bottom of stack,
and is otherwise as it was. If there is none, a new tag stands right after the first VLAN tag, or
after the first Ethernet header when there is no VLAN tag. It has the ether type of the first push
and a label of each push, all with the time to live of the first IPv4 header, the innermost marked.
Nothing else changes, and without any of these headers nothing changes at all. -/
theorem repeated_pushMpls_stacks_labels (datapath : Datapath) (packet : Packet)
    (etherType : UInt16) (more : List UInt16) :
    let stack := packet.headers
    let ttl := stack.ipv4Ttls.head?.getD 0
    ∃ after, datapath.applyList packet ((etherType :: more).map .pushMpls) =
        ⟨[], .ok ({ packet with headers := after }, [])⟩ ∧
      (.mpls ∈ stack.kinds → ∃ outer tag inner pushed, stack = ⟨outer ++ .mpls tag :: inner⟩ ∧
        .mpls ∉ outer.map HeaderTag.kind ∧ after = ⟨outer ++ .mpls pushed :: inner⟩ ∧
        pushed.etherType = tag.etherType ∧
        pushed.entries =
          List.replicate (more.length + 1) { tag.outermost with bos := false } ++ tag.entries) ∧
      (.mpls ∉ stack.kinds → .vlan ∈ stack.kinds ∨ .ether ∈ stack.kinds →
        ∃ outer anchor inner pushed, stack = ⟨outer ++ anchor :: inner⟩ ∧
          anchor.kind = (if .vlan ∈ stack.kinds then .vlan else .ether) ∧
          anchor.kind ∉ outer.map HeaderTag.kind ∧
          after = ⟨outer ++ anchor :: .mpls pushed :: inner⟩ ∧
          pushed.etherType = etherType ∧
          pushed.entries =
            List.replicate more.length ⟨0, 0, false, ttl⟩ ++ [⟨0, 0, true, ttl⟩]) ∧
      (.mpls ∉ stack.kinds → .vlan ∉ stack.kinds → .ether ∉ stack.kinds → after = stack) := by
  intro stack ttl
  have applied := datapath.applyList_map_of_headers .pushMpls HeaderStack.pushMpls
    (fun _ _ => rfl) (fun _ _ => rfl) packet (etherType :: more)
  refine ⟨_, applied, fun present => ?_, fun lacks anchored => ?_, fun mpls vlan ether => ?_⟩
  · exact HeaderStack.foldl_pushMpls_of_mem present (etherType :: more)
  · exact HeaderStack.foldl_pushMpls_of_lacks lacks anchored etherType more
  · exact HeaderStack.foldl_pushMpls_of_bare mpls vlan ether (etherType :: more)

/-- Two labels go onto a tag of one label, and two into a new tag after a VLAN tag that stands
outside the Ethernet header. -/
theorem repeated_pushMpls_stacks_labels_old_and_new_tag :
    let pushes := [EtherType.mpls, EtherType.mplsMulticast].map Action.pushMpls
    let tagged := Sample.packet
      [Sample.ether, .mpls (.single EtherType.mplsMulticast ⟨7, 1, true, 3⟩), Sample.ipv4 9]
    let plain := Sample.packet [Sample.vlan 5 0, Sample.ether, Sample.ipv4 9, Sample.ipv4 4]
    .mpls ∈ tagged.headers.kinds ∧
    (∃ outer tag inner pushed, tagged.headers = ⟨outer ++ .mpls tag :: inner⟩ ∧
      applyList {} tagged pushes =
        ⟨[], .ok ({ tagged with headers := ⟨outer ++ .mpls pushed :: inner⟩ }, [])⟩ ∧
      pushed.entries = List.replicate 2 { tag.outermost with bos := false } ++ tag.entries) ∧
    .mpls ∉ plain.headers.kinds ∧ .vlan ∈ plain.headers.kinds ∧
    ∃ outer anchor inner pushed, plain.headers = ⟨outer ++ anchor :: inner⟩ ∧
      anchor.kind = .vlan ∧
      applyList {} plain pushes =
        ⟨[], .ok ({ plain with headers := ⟨outer ++ anchor :: .mpls pushed :: inner⟩ }, [])⟩ ∧
      pushed.etherType = EtherType.mpls ∧
      pushed.entries = [⟨0, 0, false, 9⟩, ⟨0, 0, true, 9⟩] := by
  intro pushes tagged plain
  have present : .mpls ∈ tagged.headers.kinds := by decide
  have lacks : .mpls ∉ plain.headers.kinds := by decide
  have vlan : .vlan ∈ plain.headers.kinds := by decide
  obtain ⟨after, applied, onTop, -, -⟩ :=
    repeated_pushMpls_stacks_labels {} tagged EtherType.mpls [EtherType.mplsMulticast]
  obtain ⟨outer, tag, inner, pushed, split, -, rfl, -, entries⟩ := onTop present
  obtain ⟨fresh, appliedToo, -, inserted, -⟩ :=
    repeated_pushMpls_stacks_labels {} plain EtherType.mpls [EtherType.mplsMulticast]
  obtain ⟨outer', anchor, inner', new, splitToo, own, -, rfl, etherType, labels⟩ :=
    inserted lacks (.inl vlan)
  exact ⟨present, ⟨outer, tag, inner, pushed, split, applied, entries⟩, lacks, vlan,
    outer', anchor, inner', new, splitToo, own, appliedToo, etherType, labels⟩

/-- Any number of VLAN pushes leave one packet and no event. Their tags stand right after the first
Ethernet header, the last one pushed outermost, and each with its own ether type. All have the
identity of the first VLAN tag there was, wherever it stood, or the default one if there was none.
Nothing else changes, and without an Ethernet header nothing changes at all. -/
theorem repeated_pushVlan_stacks_tags (datapath : Datapath) (packet : Packet)
    (etherTypes : List UInt16) :
    let stack := packet.headers
    let found := stack.vlanTags.headD datapath.config.vlanDefaults.tag
    ∃ after, datapath.applyList packet (etherTypes.map .pushVlan) =
        ⟨[], .ok ({ packet with headers := after }, [])⟩ ∧
      (.ether ∈ stack.kinds → ∃ outer ether inner, stack = ⟨outer ++ ether :: inner⟩ ∧
        ether.kind = .ether ∧ .ether ∉ outer.map HeaderTag.kind ∧
        after = ⟨outer ++ ether ::
          ((etherTypes.reverse.map fun etherType => .vlan { found with etherType }) ++ inner)⟩) ∧
      (.ether ∉ stack.kinds → after = stack) := by
  intro stack found
  have applied := datapath.applyList_map_of_headers .pushVlan
    (fun stack etherType => stack.pushVlan etherType datapath.config.vlanDefaults)
    (fun _ _ => rfl) (fun _ _ => rfl) packet etherTypes
  refine ⟨_, applied, fun present => ?_, fun lacks => ?_⟩
  · exact HeaderStack.foldl_pushVlan_of_mem present _ etherTypes
  · exact HeaderStack.foldl_pushVlan_of_lacks lacks _ etherTypes

/-- The VLAN tag outside the Ethernet header is the first, so it is the one to inherit from. -/
theorem repeated_pushVlan_stacks_tags_vlan_outside :
    let packet := Sample.packet
      [Sample.vlan 7 3, Sample.ether, Sample.vlan 5 1, Sample.ipv4 9]
    let pushed : List HeaderTag := [.vlan ⟨3, 7, EtherType.qinq⟩, .vlan ⟨3, 7, EtherType.vlan⟩]
    .ether ∈ packet.headers.kinds ∧
    ∃ outer ether inner, packet.headers = ⟨outer ++ ether :: inner⟩ ∧ ether.kind = .ether ∧
      applyList {} packet [.pushVlan EtherType.vlan, .pushVlan EtherType.qinq] =
        ⟨[], .ok ({ packet with headers := ⟨outer ++ ether :: (pushed ++ inner)⟩ }, [])⟩ := by
  intro packet pushed
  have present : .ether ∈ packet.headers.kinds := by decide
  obtain ⟨after, applied, under, -⟩ :=
    repeated_pushVlan_stacks_tags {} packet [EtherType.vlan, EtherType.qinq]
  obtain ⟨outer, ether, inner, split, own, -, rfl⟩ := under present
  exact ⟨present, outer, ether, inner, split, own, applied⟩

end Datapath

end OpenFlow
