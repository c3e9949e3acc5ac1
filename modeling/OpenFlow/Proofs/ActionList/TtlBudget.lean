import OpenFlow.Proofs.ActionList.Absence
import OpenFlow.Proofs.ActionList.Exhaustion

/-!
# The time to live as a budget

The time to live of the first IPv4 header pays for the decrements of a list, one each. Pushes,
pops and writes of fields come and go around the IPv4 headers without touching what is left, so
a list gets through exactly when it has no more decrements than the header has time to live, and
otherwise fails at the first decrement that is not paid for. The other IPv4 headers pay for nothing.
-/
namespace OpenFlow

/-- The time to live of an IPv4 header, none for other tags. -/
def HeaderTag.ipv4Ttl? : HeaderTag → Option UInt8
  | .ipv4 header => some header.ttl
  | .ether _ | .vlan _ | .mpls _ => none

namespace HeaderTag

theorem ipv4Ttl?_eq_none {tag : HeaderTag} (other : tag.kind ≠ .ipv4) : tag.ipv4Ttl? = none := by
  cases tag with
  | ipv4 header => exact absurd rfl other
  | _ => rfl

theorem ipv4Ttl?_eq_ttl? {tag : HeaderTag} (ipv4 : tag.kind = .ipv4) :
    tag.ipv4Ttl? = tag.ttl? := by
  cases tag with
  | ipv4 header => rfl
  | _ => cases ipv4

theorem ipv4Ttl?_write (field : SetField) (tag : HeaderTag) :
    (field.write tag).ipv4Ttl? = tag.ipv4Ttl? := by
  cases tag <;> cases field <;> rfl

end HeaderTag

namespace HeaderStack

/-- The times to live of the IPv4 headers, outermost first. -/
def ipv4Ttls (stack : HeaderStack) : List UInt8 := stack.tags.filterMap HeaderTag.ipv4Ttl?

variable {stack : HeaderStack} {kind : HeaderKind} {tags outer inner : List HeaderTag}

theorem filterMap_ipv4Ttl?_of_lacks (lacks : .ipv4 ∉ tags.map HeaderTag.kind) :
    tags.filterMap HeaderTag.ipv4Ttl? = [] :=
  filterMap_of_lacks (fun _ => HeaderTag.ipv4Ttl?_eq_none) lacks

theorem ipv4Ttls_first {tag : HeaderTag} {ttl : UInt8} (first : .ipv4 ∉ outer.map HeaderTag.kind)
    (shown : tag.ipv4Ttl? = some ttl) :
    ipv4Ttls ⟨outer ++ tag :: inner⟩ = ttl :: ipv4Ttls ⟨inner⟩ := by
  rw [ipv4Ttls, List.filterMap_append, filterMap_ipv4Ttl?_of_lacks first,
    List.filterMap_cons_some shown]
  rfl

/-- A decrement looks at the first of these times to live. -/
theorem ttl?_ipv4 (stack : HeaderStack) : stack.ttl? .ipv4 = stack.ipv4Ttls.head? := by
  rcases stack.lacks_or_first TtlHeader.ipv4.kind with
    lacks | ⟨outer, tag, inner, rfl, ipv4, first⟩
  · rw [ttl?, find, findNth, on?_of_lacks lacks, ipv4Ttls, filterMap_ipv4Ttl?_of_lacks lacks]
    rfl
  · obtain ⟨ttl, carried⟩ := HeaderTag.exists_ttl?_of_kind ipv4
    have shown : tag.ipv4Ttl? = some ttl := (HeaderTag.ipv4Ttl?_eq_ttl? ipv4).trans carried
    rw [ipv4Ttls_first first shown, List.head?_cons, ← carried]
    exact ttl?_first first ipv4

/-! ### What keeps the IPv4 headers' times to live -/

theorem ipv4Ttls_editFirst {edit : HeaderTag → Edit}
    (keeps : ∀ tag, tag.kind = kind →
      (edit tag).tags.filterMap HeaderTag.ipv4Ttl? = [tag].filterMap HeaderTag.ipv4Ttl?) :
    (stack.editFirst kind edit).ipv4Ttls = stack.ipv4Ttls := by
  rcases stack.lacks_or_first kind with lacks | ⟨outer, tag, inner, rfl, same, first⟩
  · rw [editFirst_of_lacks lacks]
  · rw [editFirst_first first same, List.append_cons]
    simp only [ipv4Ttls, List.filterMap_append, keeps tag same]

theorem ipv4Ttls_insertAfter {new : HeaderTag} (other : new.kind ≠ .ipv4) :
    (stack.editFirst kind fun tag => .insertAfter tag new).ipv4Ttls = stack.ipv4Ttls := by
  have silent : [new].filterMap HeaderTag.ipv4Ttl? = [] :=
    List.filterMap_cons_none (HeaderTag.ipv4Ttl?_eq_none other)
  refine ipv4Ttls_editFirst fun tag _ => ?_
  rw [Edit.tags, List.filterMap_cons, silent]
  rfl

theorem ipv4Ttls_pushVlan (stack : HeaderStack) (etherType : UInt16) (defaults : VlanDefaults) :
    (stack.pushVlan etherType defaults).ipv4Ttls = stack.ipv4Ttls := by
  obtain ⟨new, pushed⟩ := stack.pushVlan_eq_insertAfter etherType defaults
  rw [pushed]
  exact ipv4Ttls_insertAfter nofun

theorem ipv4Ttls_popVlan (stack : HeaderStack) : stack.popVlan.ipv4Ttls = stack.ipv4Ttls := by
  unfold popVlan
  split
  · rfl
  · refine ipv4Ttls_editFirst fun tag vlan => ?_
    cases tag with
    | vlan tag => rfl
    | _ => cases vlan

theorem ipv4Ttls_pushMpls (stack : HeaderStack) (etherType : UInt16) :
    (stack.pushMpls etherType).ipv4Ttls = stack.ipv4Ttls := by
  unfold pushMpls
  split
  · refine ipv4Ttls_editFirst fun tag mpls => ?_
    cases tag with
    | mpls tag => rfl
    | _ => cases mpls
  · exact ipv4Ttls_insertAfter nofun

theorem ipv4Ttls_popMpls (stack : HeaderStack) : stack.popMpls.ipv4Ttls = stack.ipv4Ttls := by
  refine ipv4Ttls_editFirst fun tag mpls => ?_
  cases tag with
  | mpls tag =>
    -- The tag goes or stays without a label, and has no IPv4 header either way.
    obtain ⟨etherType, outermost, inner⟩ := tag
    cases inner <;> rfl
  | _ => cases mpls

theorem ipv4Ttls_setMplsTtl (stack : HeaderStack) (ttl : UInt8) :
    (stack.setTtl .mpls ttl).ipv4Ttls = stack.ipv4Ttls := by
  refine ipv4Ttls_editFirst fun tag mpls => ?_
  cases tag with
  | mpls tag => rfl
  | _ => cases mpls

theorem ipv4Ttls_setField (stack : HeaderStack) (field : SetField) :
    (stack.setField field).ipv4Ttls = stack.ipv4Ttls := by
  rw [setField_eq_editFirst]
  refine ipv4Ttls_editFirst fun tag _ => ?_
  simp only [Edit.tags, List.filterMap_cons, HeaderTag.ipv4Ttl?_write]

/-- Setting the time to live of the first IPv4 header leaves the others theirs. -/
theorem ipv4Ttls_setNwTtl {ttl : UInt8} {others : List UInt8}
    (shown : stack.ipv4Ttls = ttl :: others) (new : UInt8) :
    (stack.setTtl .ipv4 new).ipv4Ttls = new :: others := by
  rcases stack.lacks_or_first .ipv4 with lacks | ⟨outer, tag, inner, rfl, ipv4, first⟩
  · rw [ipv4Ttls, filterMap_ipv4Ttl?_of_lacks lacks] at shown
    cases shown
  · cases tag with
    | ipv4 header =>
      have set : setTtl ⟨outer ++ .ipv4 header :: inner⟩ .ipv4 new =
          ⟨outer ++ .ipv4 { header with ttl := new } :: inner⟩ := setTtl_first first ipv4 new
      rw [ipv4Ttls_first first rfl] at shown
      obtain ⟨-, rfl⟩ := List.cons.inj shown
      rw [set, ipv4Ttls_first first rfl]
    | _ => cases ipv4

/-- So much of the first IPv4 header's time to live is spent, and none of the others'. -/
def Spent (ttl : UInt8) (others : List UInt8) (spent : Nat) (stack : HeaderStack) : Prop :=
  ∃ left : UInt8, left.toNat + spent = ttl.toNat ∧ stack.ipv4Ttls = left :: others

end HeaderStack

namespace Action

/-- The action may write the time to live of an IPv4 header other than by decrementing it, or fail
on another header. -/
def unbudgeted : Action → Bool
  | .setNwTtl _ | .copyTtlOut | .copyTtlIn | .decMplsTtl => true
  | _ => false

variable {defaults : VlanDefaults} {packet next : Packet} {action : Action}
variable {ttl : UInt8} {others : List UInt8} {spent : Nat}

theorem ipv4Ttls_of_transform (budgeted : action.unbudgeted = false) (free : action ≠ .decNwTtl)
    (moved : action.transform defaults packet = .ok next) :
    next.headers.ipv4Ttls = packet.headers.ipv4Ttls := by
  cases action with
  | setMplsTtl ttl => cases moved; exact packet.headers.ipv4Ttls_setMplsTtl ttl
  | pushVlan etherType => cases moved; exact packet.headers.ipv4Ttls_pushVlan etherType defaults
  | popVlan => cases moved; exact packet.headers.ipv4Ttls_popVlan
  | pushMpls etherType => cases moved; exact packet.headers.ipv4Ttls_pushMpls etherType
  | popMpls => cases moved; exact packet.headers.ipv4Ttls_popMpls
  | setField field => cases moved; exact packet.headers.ipv4Ttls_setField field
  | output | group | setQueue | experimenter => cases moved; rfl
  | decNwTtl => exact absurd rfl free
  | _ => cases budgeted

/-- A decrement that succeeds spends one of the first IPv4 header's time to live. -/
theorem spent_of_decNwTtl (paid : packet.headers.Spent ttl others spent)
    (moved : Action.decNwTtl.transform defaults packet = .ok next) :
    next.headers.Spent ttl others (spent + 1) := by
  obtain ⟨left, total, shown⟩ := paid
  have seen : packet.headers.ttl? .ipv4 = some left := by
    rw [HeaderStack.ttl?_ipv4, shown, List.head?_cons]
  obtain ⟨after, lowered, rfl⟩ := Run.map_eq_ok_iff.mp moved
  rcases HeaderStack.setTtl_of_decTtl lowered with ⟨absent, -⟩ | ⟨found, seenToo, positive, rfl⟩
  · cases seen.symm.trans absent
  · cases seen.symm.trans seenToo
    refine ⟨left - 1, ?_, HeaderStack.ipv4Ttls_setNwTtl shown (left - 1)⟩
    have one := HeaderStack.toNat_lowered positive
    omega

/-- Every action but the decrement is free. -/
theorem spent_of_transform (budgeted : action.unbudgeted = false)
    (paid : packet.headers.Spent ttl others spent)
    (moved : action.transform defaults packet = .ok next) :
    next.headers.Spent ttl others (spent + [action].count .decNwTtl) := by
  by_cases decrement : action = .decNwTtl
  · subst decrement
    exact spent_of_decNwTtl paid moved
  · rw [List.count_singleton, if_neg (by simpa using decrement), HeaderStack.Spent,
      ipv4Ttls_of_transform budgeted decrement moved]
    exact paid

end Action

namespace Datapath

variable {datapath : Datapath} {packet last : Packet} {actions : List Action}
variable {effects : List SideEffect} {ttl : UInt8} {others : List UInt8} {spent : Nat}

theorem spent_of_applyList (budgeted : ∀ action ∈ actions, action.unbudgeted = false)
    (paid : packet.headers.Spent ttl others spent)
    (succeeded : (datapath.applyList packet actions).result = .ok (last, effects)) :
    last.headers.Spent ttl others (spent + actions.count .decNwTtl) := by
  -- What is spent by the first action is spent already when the rest starts.
  induction actions generalizing packet effects spent with
  | nil =>
    cases succeeded
    exact paid
  | cons action rest ih =>
    obtain ⟨next, late, moved, returned, -, -⟩ := applyList_cons_cases succeeded
    obtain ⟨here, later⟩ := List.forall_mem_cons.mp budgeted
    have step := Action.spent_of_transform here paid moved
    have total := ih later step returned
    rwa [Nat.add_assoc, ← List.count_append, List.singleton_append] at total

namespace ExhaustedAt

variable {header : TtlHeader} {before after : List Action} {reached : Packet}

/-- Of the actions that are budgeted, only the decrement of an IPv4 header fails. -/
theorem header_eq_ipv4 (budgeted : ∀ action ∈ actions, action.unbudgeted = false)
    (point : datapath.ExhaustedAt packet actions header before after reached) :
    header = .ipv4 := by
  have member : header.decrement ∈ actions := by simp [point.split]
  cases header with
  | mpls => cases budgeted .decMplsTtl member
  | ipv4 => rfl

/-- The decrement that fails comes on top of those before it. -/
theorem count_lt (point : datapath.ExhaustedAt packet actions .ipv4 before after reached) :
    before.count .decNwTtl < actions.count .decNwTtl := by
  have split : actions = before ++ .decNwTtl :: after := point.split
  rw [split, List.count_append, List.count_cons_self]
  omega

/-- A run that fails has spent all of the first IPv4 header's time to live by then. -/
theorem budget_spent (budgeted : ∀ action ∈ actions, action.unbudgeted = false)
    (shown : packet.headers.ipv4Ttls = ttl :: others)
    (point : datapath.ExhaustedAt packet actions .ipv4 before after reached) :
    before.count .decNwTtl = ttl.toNat ∧ reached.headers.ipv4Ttls = 0 :: others := by
  have early : ∀ action ∈ before, action.unbudgeted = false := fun action member =>
    budgeted action (point.split ▸ List.mem_append_left _ member)
  have unspent : packet.headers.Spent ttl others 0 := ⟨ttl, rfl, shown⟩
  obtain ⟨effects, reaches⟩ := point.reaches
  obtain ⟨left, total, remaining⟩ := spent_of_applyList early unspent reaches
  -- The decrement that failed saw what was left.
  have seen : some left = some 0 := by
    rw [← point.exhausted, HeaderStack.ttl?_ipv4, remaining, List.head?_cons]
  cases seen
  exact ⟨by simpa using total, remaining⟩

end ExhaustedAt

/-- Without an IPv4 header there is nothing to decrement. -/
theorem exists_ok_of_lacks_ipv4 (budgeted : ∀ action ∈ actions, action.unbudgeted = false)
    (lacks : .ipv4 ∉ packet.headers.kinds) :
    ∃ last effects, (datapath.applyList packet actions).result = .ok (last, effects) := by
  rcases exists_ok_or_exhaustedAt datapath packet actions with
    through | ⟨header, before, after, reached, point⟩
  · exact through
  · obtain rfl := point.header_eq_ipv4 budgeted
    obtain ⟨effects, reaches⟩ := point.reaches
    have lacksStill : .ipv4 ∉ reached.headers.kinds := by
      refine (applyList_keeps (fun packet => .ipv4 ∉ packet.headers.kinds) ?_ lacks reaches).1
      intro action packet next lacks moved
      -- Only VLAN tags and labels are ever brought in.
      have other : action.brings? ≠ some .ipv4 := by cases action <;> nofun
      exact (Action.moves_of_transform moved).lacks other lacks
    have seen := point.exhausted
    rw [HeaderStack.ttl?_ipv4, HeaderStack.ipv4Ttls,
      HeaderStack.filterMap_ipv4Ttl?_of_lacks lacksStill] at seen
    cases seen

/-- The time to live of the first IPv4 header is a budget for decrements. A list gets through if it
has no more of them than that, and then the header has what is left. Otherwise the list fails
at the first decrement that finds the budget used up, and the controller is sent the packet with
a time to live of zero. The other IPv4 headers keep theirs, and without an IPv4 header nothing
fails. -/
theorem ipv4Ttl_is_budget (datapath : Datapath) (packet : Packet) (actions : List Action)
    (budgeted : ∀ action ∈ actions, action.unbudgeted = false) :
    let run := datapath.applyList packet actions
    let count := actions.count .decNwTtl
    (∀ ttl others, packet.headers.ipv4Ttls = ttl :: others →
      ((∃ last effects, run.result = .ok (last, effects)) ↔ count ≤ ttl.toNat) ∧
      (∀ last effects, run.result = .ok (last, effects) →
        ∃ left : UInt8, left.toNat = ttl.toNat - count ∧
          last.headers.ipv4Ttls = left :: others) ∧
      (ttl.toNat < count → run.result = .error (.invalidTtl .ipv4) ∧
        ∃ before after reached, datapath.ExhaustedAt packet actions .ipv4 before after reached ∧
          before.count .decNwTtl = ttl.toNat ∧
          run.journal.attempts = (datapath.applyList packet before).journal.attempts ++
            [(datapath.config.controller,
              { reached with packetInReason := some .invalidTtl })] ∧
          reached.headers.ipv4Ttls = 0 :: others)) ∧
    (.ipv4 ∉ packet.headers.kinds → ∃ last effects, run.result = .ok (last, effects)) := by
  intro run count
  refine ⟨fun ttl others shown => ?_, exists_ok_of_lacks_ipv4 budgeted⟩
  rcases exists_ok_or_exhaustedAt datapath packet actions with
    ⟨last, effects, succeeded⟩ | ⟨header, before, after, reached, point⟩
  · -- The run got through, so all of its decrements were paid for.
    have unspent : packet.headers.Spent ttl others 0 := ⟨ttl, rfl, shown⟩
    obtain ⟨left, total, rest⟩ := spent_of_applyList budgeted unspent succeeded
    have paid : left.toNat + count = ttl.toNat := by omega
    refine ⟨⟨fun _ => by omega, fun _ => ⟨last, effects, succeeded⟩⟩, ?_, fun short => by omega⟩
    intro other reported again
    cases succeeded.symm.trans again
    exact ⟨left, by omega, rest⟩
  · -- The run failed, at a decrement that comes on top of those that used up the budget.
    obtain rfl := point.header_eq_ipv4 budgeted
    obtain ⟨used, empty⟩ := point.budget_spent budgeted shown
    have more : before.count .decNwTtl < count := point.count_lt
    have failed : run.result = .error (.invalidTtl .ipv4) := congrArg Run.result point.applyList_eq
    refine ⟨⟨?_, fun enough => by omega⟩, ?_, fun _ => ?_⟩
    · rintro ⟨last, effects, succeeded⟩
      cases failed.symm.trans succeeded
    · intro last effects succeeded
      cases failed.symm.trans succeeded
    · exact ⟨failed, before, after, reached, point, used, point.attempts_eq, empty⟩

/-- The header beneath the label pays for three decrements, whatever is pushed, popped and written
in between, and the fourth fails; the header inside it keeps its time to live. -/
theorem ipv4Ttl_is_budget_overdrawn :
    let packet := Sample.packet [Sample.ether, Sample.ipv4 3, Sample.ipv4 9]
    let paid := [.decNwTtl, .pushMpls EtherType.mpls, .setMplsTtl 0, .decNwTtl,
      .output (.number 3), .popMpls, .setField (.ipProto 6), .decNwTtl, .pushVlan EtherType.vlan]
    let actions := paid ++ [.decNwTtl, .group ⟨7⟩]
    (∀ action ∈ actions, action.unbudgeted = false) ∧
    packet.headers.ipv4Ttls = [3, 9] ∧
    (∃ last effects, (applyList {} packet paid).result = .ok (last, effects) ∧
      last.headers.ipv4Ttls = [0, 9]) ∧
    (applyList {} packet actions).result = .error (.invalidTtl .ipv4) := by
  intro packet paid actions
  have budgeted : ∀ action ∈ actions, action.unbudgeted = false := by decide
  have budgetedPaid : ∀ action ∈ paid, action.unbudgeted = false := by decide
  have shown : packet.headers.ipv4Ttls = [3, 9] := rfl
  obtain ⟨paying, -⟩ := ipv4Ttl_is_budget {} packet paid budgetedPaid
  obtain ⟨enough, remains, -⟩ := paying 3 [9] shown
  obtain ⟨last, effects, succeeded⟩ := enough.mpr (by decide)
  obtain ⟨left, none, rest⟩ := remains last effects succeeded
  have used : left = 0 := UInt8.toNat_inj.mp none
  obtain ⟨overdrawn, -⟩ := ipv4Ttl_is_budget {} packet actions budgeted
  obtain ⟨failed, -⟩ := (overdrawn 3 [9] shown).2.2 (by decide)
  exact ⟨budgeted, shown, ⟨last, effects, succeeded, used ▸ rest⟩, failed⟩

end Datapath

end OpenFlow
