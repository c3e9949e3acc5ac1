import OpenFlow.Proofs.ActionList.Exhaustion
import OpenFlow.Proofs.Header.Encapsulation

/-!
# Brackets of a push and a pop

A bracket is a push, then actions that touch no header but the pushed one and whole
brackets of the same kind, then the pop. Whatever happens inside, a bracket returns the
headers it started from.
-/
namespace OpenFlow

/-- What can be pushed onto a packet and popped off it again. -/
inductive Encapsulation where
  | mpls
  | vlan
deriving DecidableEq, Repr

namespace Encapsulation

def kind : Encapsulation → HeaderKind
  | .mpls => .mpls
  | .vlan => .vlan

def push : Encapsulation → UInt16 → Action
  | .mpls => .pushMpls
  | .vlan => .pushVlan

def pop : Encapsulation → Action
  | .mpls => .popMpls
  | .vlan => .popVlan

/-- The headers after a pop. -/
def strip : Encapsulation → HeaderStack → HeaderStack
  | .mpls => HeaderStack.popMpls
  | .vlan => HeaderStack.popVlan

/-- The action touches no header, or only the first of the kind. -/
def Edits (tag : Encapsulation) : Action → Prop
  | .setField field => field.owner = tag.kind
  | .setMplsTtl _ | .decMplsTtl => tag = .mpls
  | .output _ | .group _ | .setQueue _ | .experimenter _ => True
  | _ => False

/-- A sequence of edits and of brackets. -/
inductive Items (tag : Encapsulation) : List Action → Prop
  | nil : Items tag []
  | edit {action : Action} {rest : List Action} (edits : tag.Edits action)
      (later : Items tag rest) : Items tag (action :: rest)
  | bracket (etherType : UInt16) {body rest : List Action} (inside : Items tag body)
      (later : Items tag rest) : Items tag (tag.push etherType :: (body ++ tag.pop :: rest))

/-- A push, then items, then the pop. -/
def Bracket (tag : Encapsulation) (actions : List Action) : Prop :=
  ∃ etherType body, tag.Items body ∧ actions = tag.push etherType :: (body ++ [tag.pop])

/-- On suitable headers a pop undoes a push, and what is edited in between is popped along. -/
structure Restores (tag : Encapsulation) (defaults : VlanDefaults)
    (suitable : HeaderStack → Prop) : Prop where
  pushed : ∀ {etherType packet next}, suitable packet.headers →
    (tag.push etherType).transform defaults packet = .ok next →
      suitable next.headers ∧ tag.strip next.headers = packet.headers
  edited : ∀ {action packet next}, suitable packet.headers → tag.Edits action →
    action.transform defaults packet = .ok next →
      suitable next.headers ∧ tag.strip next.headers = tag.strip packet.headers

theorem headers_of_pop {tag : Encapsulation} {defaults : VlanDefaults} {packet next : Packet}
    (popped : tag.pop.transform defaults packet = .ok next) :
    next.headers = tag.strip packet.headers := by
  cases tag <;> cases popped <;> rfl

variable {tag : Encapsulation} {datapath : Datapath} {suitable : HeaderStack → Prop}
variable {packet last : Packet} {actions : List Action} {effects : List SideEffect}

/-- A body that keeps what is under the pushed tag leaves the bracket at the headers it met. -/
theorem Restores.after_bracket (restores : tag.Restores datapath.config.vlanDefaults suitable)
    (suits : suitable packet.headers) {etherType : UInt16} {body rest : List Action}
    (keeps : ∀ {start middle early}, suitable start.headers →
      (datapath.applyList start body).result = .ok (middle, early) →
        tag.strip middle.headers = tag.strip start.headers)
    (succeeded : (datapath.applyList packet (tag.push etherType :: (body ++ tag.pop :: rest))).result
      = .ok (last, effects)) :
    ∃ after late, after.headers = packet.headers ∧
      (datapath.applyList after rest).result = .ok (last, late) := by
  obtain ⟨start, _, pushed, ran, -, -⟩ := Datapath.applyList_cons_cases succeeded
  obtain ⟨middle, _, _, reached, remaining, -⟩ := Datapath.applyList_append_cases ran
  obtain ⟨after, late, popped, returned, -, -⟩ := Datapath.applyList_cons_cases remaining
  obtain ⟨suitsStart, undone⟩ := restores.pushed suits pushed
  refine ⟨after, late, ?_, returned⟩
  calc after.headers
      = tag.strip middle.headers := headers_of_pop popped
    _ = tag.strip start.headers := keeps suitsStart reached
    _ = packet.headers := undone

theorem Restores.strip_of_items (restores : tag.Restores datapath.config.vlanDefaults suitable)
    (items : tag.Items actions) (suits : suitable packet.headers)
    (succeeded : (datapath.applyList packet actions).result = .ok (last, effects)) :
    tag.strip last.headers = tag.strip packet.headers := by
  -- What a pop would leave is the same after each edit and after each whole bracket.
  induction items generalizing packet last effects with
  | nil =>
    cases succeeded
    rfl
  | edit edits _ ih =>
    obtain ⟨next, _, moved, returned, -, -⟩ := Datapath.applyList_cons_cases succeeded
    obtain ⟨suitsNext, same⟩ := restores.edited suits edits moved
    exact (ih suitsNext returned).trans same
  | bracket _ _ _ insideIh laterIh =>
    -- The inner bracket gives back the headers it met, so the rest starts from them.
    obtain ⟨after, _, same, returned⟩ := restores.after_bracket suits insideIh succeeded
    rw [← same] at suits ⊢
    exact laterIh suits returned

theorem Restores.headers_of_bracket
    (restores : tag.Restores datapath.config.vlanDefaults suitable)
    (bracket : tag.Bracket actions) (suits : suitable packet.headers)
    (succeeded : (datapath.applyList packet actions).result = .ok (last, effects)) :
    last.headers = packet.headers := by
  obtain ⟨etherType, body, items, rfl⟩ := bracket
  obtain ⟨after, _, same, returned⟩ :=
    restores.after_bracket suits (restores.strip_of_items items) succeeded
  cases returned
  exact same

theorem restores_mpls (defaults : VlanDefaults) : mpls.Restores defaults fun _ => True where
  pushed _ moved := by
    cases moved
    exact ⟨trivial, HeaderStack.popMpls_pushMpls _ _⟩
  edited {action packet next} _ edits moved := by
    refine ⟨trivial, ?_⟩
    cases action <;> try cases edits
    case setField field =>
      cases moved
      exact HeaderStack.popMpls_setField edits
    case setMplsTtl ttl =>
      cases moved
      exact HeaderStack.popMpls_setTtl ttl
    case decMplsTtl =>
      obtain ⟨after, decremented, rfl⟩ := Run.map_eq_ok_iff.mp moved
      exact HeaderStack.popMpls_decTtl decremented
    all_goals cases moved; rfl

theorem restores_vlan (defaults : VlanDefaults) :
    vlan.Restores defaults HeaderStack.VlansUnderEther where
  pushed under moved := by
    cases moved
    exact under.pushVlan _ defaults
  edited {action packet next} under edits moved := by
    cases action <;> try cases edits
    case setField field =>
      cases moved
      exact ⟨under.setField field, under.popVlan_setField edits⟩
    all_goals cases moved; exact ⟨under, rfl⟩

theorem Items.not_mem_decrement (items : vlan.Items actions) (header : TtlHeader) :
    header.decrement ∉ actions := by
  induction items with
  | nil => simp
  | edit edits _ ih =>
    simp only [List.mem_cons, not_or]
    refine ⟨?_, ih⟩
    rintro rfl
    cases header <;> cases edits
  | bracket etherType _ _ insideIh laterIh =>
    have others : header.decrement ≠ .pushVlan etherType ∧ header.decrement ≠ .popVlan := by
      cases header <;> simp [TtlHeader.decrement]
    simp only [push, pop, List.mem_cons, List.mem_append, not_or]
    exact ⟨others.1, insideIh, others.2, laterIh⟩

end Encapsulation

namespace Datapath

/-- Whatever happens to a pushed label before it is popped leaves no trace in the headers. -/
theorem headers_of_mpls_bracket (datapath : Datapath) (packet last : Packet)
    (actions : List Action) (effects : List SideEffect)
    (bracket : Encapsulation.mpls.Bracket actions)
    (succeeded : (datapath.applyList packet actions).result = .ok (last, effects)) :
    last.headers = packet.headers :=
  (Encapsulation.restores_mpls _).headers_of_bracket bracket trivial succeeded

/-- A label is written, covered by a second and decremented, all above two VLAN tags. -/
theorem headers_of_mpls_bracket_nested :
    let packet := Sample.packet [Sample.ether, Sample.vlan 5 0, Sample.vlan 6 0, Sample.ipv4 9]
    let inner := .pushMpls EtherType.mpls :: ([.setMplsTtl 3, .output .flood] ++ [.popMpls])
    let body := .setField (.mplsLabel 77) :: (inner ++ [.decMplsTtl])
    let actions := .pushMpls EtherType.mpls :: (body ++ [.popMpls])
    Encapsulation.mpls.Bracket actions ∧
    ∃ last effects, (applyList {} packet actions).result = .ok (last, effects) ∧
      effects.length = 1 ∧ last.headers = packet.headers := by
  intro packet inner body actions
  have inside : Encapsulation.mpls.Items [.setMplsTtl 3, .output .flood] :=
    .edit rfl (.edit trivial .nil)
  have decrement : Encapsulation.mpls.Items [.decMplsTtl] := .edit rfl .nil
  have items : Encapsulation.mpls.Items body :=
    .edit rfl (.bracket EtherType.mpls inside decrement)
  have nested : Encapsulation.mpls.Bracket actions := ⟨EtherType.mpls, body, items, rfl⟩
  exact ⟨nested, _, _, rfl, rfl, headers_of_mpls_bracket {} packet _ actions _ nested rfl⟩

/-- A VLAN bracket runs to its end and gives back the headers it met. -/
theorem headers_of_vlan_bracket (datapath : Datapath) (packet : Packet) (actions : List Action)
    (under : packet.headers.VlansUnderEther) (bracket : Encapsulation.vlan.Bracket actions) :
    ∃ last effects, (datapath.applyList packet actions).result = .ok (last, effects) ∧
      last.headers = packet.headers := by
  have quiet (header : TtlHeader) : header.decrement ∉ actions := by
    obtain ⟨etherType, body, items, rfl⟩ := bracket
    -- As an item of a longer list, the bracket has no decrement in it.
    exact Encapsulation.Items.not_mem_decrement (.bracket etherType items .nil) header
  obtain ⟨last, effects, succeeded⟩ := exists_ok_of_no_decrement quiet
  exact ⟨last, effects, succeeded,
    (Encapsulation.restores_vlan _).headers_of_bracket bracket under succeeded⟩

/-- An IPv4 header stands outermost, and a VLAN tag is already there to inherit from. -/
theorem headers_of_vlan_bracket_nested :
    let packet := Sample.packet [Sample.ipv4 9, Sample.ether, Sample.vlan 5 3]
    let inner := .pushVlan EtherType.vlan :: ([.group ⟨7⟩] ++ [.popVlan])
    let body := .setField (.vlanVid 0xF123) :: (inner ++ [.setQueue 2])
    let actions := .pushVlan EtherType.qinq :: (body ++ [.popVlan])
    packet.headers.VlansUnderEther ∧ Encapsulation.vlan.Bracket actions ∧
    ∃ last effects, (applyList {} packet actions).result = .ok (last, effects) ∧
      last.headers = packet.headers := by
  intro packet inner body actions
  have outside : HeaderKind.vlan ∉ [Sample.ipv4 9].map HeaderTag.kind := by decide
  have under : packet.headers.VlansUnderEther := HeaderStack.vlansUnderEther_of_first rfl outside
  have inside : Encapsulation.vlan.Items [.group ⟨7⟩] := .edit trivial .nil
  have queue : Encapsulation.vlan.Items [.setQueue 2] := .edit trivial .nil
  have items : Encapsulation.vlan.Items body := .edit rfl (.bracket EtherType.vlan inside queue)
  have nested : Encapsulation.vlan.Bracket actions := ⟨EtherType.qinq, body, items, rfl⟩
  exact ⟨under, nested, headers_of_vlan_bracket {} packet actions under nested⟩

end Datapath

end OpenFlow
