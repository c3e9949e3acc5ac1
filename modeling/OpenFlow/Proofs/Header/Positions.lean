import OpenFlow.Document.Header
import OpenFlow.Engine.ActionList

/-!
# Headers by position

The work on a header stack, done on bare lists. A tag is found together with its position, and
what takes its place is written, inserted or taken out at that position; the labels of an MPLS
tag are a list that nothing keeps from being empty. Each access to a position and each
subtraction is checked, and a check that fails is a fault, which is told apart from an action
that fails.
-/
namespace OpenFlow

inductive Fault where
  | position
  | underflow
deriving DecidableEq, Repr

/-- Why the work stops: an action failed, or an access was not in bounds. -/
inductive Stop where
  | failed (error : ActionError)
  | fault (fault : Fault)
deriving DecidableEq, Repr

abbrev Checked (α : Type) : Type := Except Stop α

namespace Checked

variable {α : Type}

/-- An action that fails, and no fault. -/
def ofResult (result : Except ActionError α) : Checked α := result.mapError Stop.failed

@[simp]
theorem ofResult_ok (value : α) : ofResult (.ok value) = .ok value := rfl

@[simp]
theorem ofResult_error (error : ActionError) :
    (ofResult (.error error) : Checked α) = .error (.failed error) := rfl

def get (items : List α) (position : Nat) : Checked α :=
  match items[position]? with
  | some item => .ok item
  | none => .error (.fault .position)

def set (items : List α) (position : Nat) (item : α) : Checked (List α) :=
  if position < items.length then .ok (items.set position item)
  else .error (.fault .position)

theorem set_append (outer inner : List α) (old new : α) :
    set (outer ++ old :: inner) outer.length new = .ok (outer ++ new :: inner) := by
  simp [set]

def remove (items : List α) (position : Nat) : Checked (List α) :=
  if position < items.length then .ok (items.eraseIdx position)
  else .error (.fault .position)

theorem remove_append (outer inner : List α) (old : α) :
    remove (outer ++ old :: inner) outer.length = .ok (outer ++ inner) := by
  simp [remove, List.eraseIdx_append_of_length_le]

/-- The end of the list is a position to insert at. -/
def insert (items : List α) (position : Nat) (item : α) : Checked (List α) :=
  if position ≤ items.length then .ok (items.insertIdx position item)
  else .error (.fault .position)

theorem insert_append (outer inner : List α) (first second : α) :
    insert (outer ++ first :: inner) (outer.length + 1) second =
      .ok (outer ++ first :: second :: inner) := by
  have placed : (outer ++ first :: inner).insertIdx (outer.length + 1) second =
      outer ++ first :: second :: inner :=
    List.modifyTailIdx_add (List.cons second) 1 outer (first :: inner)
  simp [insert, placed]

def pred (number : UInt8) : Checked UInt8 :=
  if 0 < number then .ok (number - 1) else .error (.fault .underflow)

theorem pred_of_ne_zero {number : UInt8} (positive : number ≠ 0) :
    pred number = .ok (number - 1) := by
  rw [pred, if_pos (UInt8.pos_iff_ne_zero.mpr positive)]

end Checked

/-! ### Tags -/

/-- An MPLS tag with any list of labels, the outermost first. -/
structure RawMpls where
  etherType : UInt16
  labels : List LabelEntry
deriving DecidableEq, Repr

namespace RawMpls

def single (etherType : UInt16) (entry : LabelEntry) : RawMpls := ⟨etherType, [entry]⟩

def ofEntries? (etherType : UInt16) (labels : List LabelEntry) : Option RawMpls :=
  if labels.isEmpty then none else some ⟨etherType, labels⟩

def decode (document : Document) : Except DocumentError RawMpls := do
  match ← document.fields ["ether_type", "stack"] with
  | [etherType, stack] =>
    match ofEntries? (← Serial.decode etherType) (← Serial.decode stack) with
    | some tag => .ok tag
    | none => .error .emptyLabelStack
  | _ => .error .mismatch

def outermost (tag : RawMpls) : Checked LabelEntry := Checked.get tag.labels 0

def withOutermost (tag : RawMpls) (entry : LabelEntry) : Checked RawMpls := do
  let labels ← Checked.set tag.labels 0 entry
  return { tag with labels }

def withEntry (tag : RawMpls) (index : Nat) (entry : LabelEntry) : RawMpls :=
  { tag with labels := tag.labels.set index entry }

def push (tag : RawMpls) (entry : LabelEntry) : Checked RawMpls := do
  let labels ← Checked.insert tag.labels 0 entry
  return { tag with labels }

/-- The removed label, if any, and the labels there are then. -/
def pop (tag : RawMpls) : Checked (Option LabelEntry × RawMpls) :=
  if tag.labels.length < 2 then return (none, tag)
  else do
    let entry ← Checked.get tag.labels 0
    let labels ← Checked.remove tag.labels 0
    return (some entry, { tag with labels })

end RawMpls

inductive RawTag where
  | ether (header : EtherHeader)
  | vlan (tag : VlanTag)
  | mpls (tag : RawMpls)
  | ipv4 (header : Ipv4Header)
deriving DecidableEq, Repr

namespace RawTag

def kind : RawTag → HeaderKind
  | .ether _ => .ether
  | .vlan _ => .vlan
  | .mpls _ => .mpls
  | .ipv4 _ => .ipv4

def ttl? : RawTag → Checked (Option UInt8)
  | .mpls tag => do
    let entry ← tag.outermost
    return some entry.ttl
  | .ipv4 header => return some header.ttl
  | .ether _ | .vlan _ => return none

def withTtl (ttl : UInt8) : RawTag → Checked RawTag
  | .mpls tag => do
    let entry ← tag.outermost
    let tag ← tag.withOutermost { entry with ttl }
    return .mpls tag
  | .ipv4 header => return .ipv4 { header with ttl }
  | tag => return tag

def write (field : SetField) : RawTag → Checked RawTag
  | .ether header => return .ether (field.writeEther header)
  | .vlan tag => return .vlan (field.writeVlan tag)
  | .mpls tag => do
    let entry ← tag.outermost
    let tag ← tag.withOutermost (field.writeLabel entry)
    return .mpls tag
  | .ipv4 header => return .ipv4 (field.writeIpv4 header)

end RawTag

inductive RawEdit where
  | replace (tag : RawTag)
  | delete
  | insertAfter (first second : RawTag)
deriving DecidableEq, Repr

/-! ### Stacks -/

abbrev RawStack : Type := List RawTag

namespace RawStack

/-- The tag of a kind after `skip` earlier ones, with its position in the whole stack. -/
def findNth (stack : RawStack) (kind : HeaderKind) (skip : Nat) : Option (RawTag × Nat) :=
  (stack.zipIdx.filter fun found => found.1.kind = kind)[skip]?

def contains (stack : RawStack) (kind : HeaderKind) : Bool := (stack.findNth kind 0).isSome

/-- What takes the place of the tag at a position. -/
def put (stack : RawStack) (position : Nat) : RawEdit → Checked RawStack
  | .replace tag => Checked.set stack position tag
  | .delete => Checked.remove stack position
  | .insertAfter first second => do
    let replaced ← Checked.set stack position first
    Checked.insert replaced (position + 1) second

/-- Let `edit` decide what takes the place of the tag that `findNth` finds. -/
def editNth (stack : RawStack) (kind : HeaderKind) (skip : Nat)
    (edit : RawTag → Checked RawEdit) : Checked RawStack :=
  match stack.findNth kind skip with
  | none => return stack
  | some (tag, position) => do
    let outcome ← edit tag
    stack.put position outcome

/-- Change the first tag of a kind on the way through the stack. -/
def modifyFirst (kind : HeaderKind) (change : RawTag → Checked RawTag) :
    RawStack → Checked RawStack
  | [] => return []
  | tag :: rest =>
    if tag.kind = kind then do
      let changed ← change tag
      return changed :: rest
    else do
      let later ← modifyFirst kind change rest
      return tag :: later

def setField (stack : RawStack) (field : SetField) : Checked RawStack :=
  modifyFirst field.owner (RawTag.write field) stack

def setTtlAt (stack : RawStack) (header : TtlHeader) (skip : Nat) (ttl : UInt8) :
    Checked RawStack :=
  stack.editNth header.kind skip fun tag => do
    let tag ← tag.withTtl ttl
    return .replace tag

def ttlAt? (stack : RawStack) (header : TtlHeader) (skip : Nat) : Checked (Option UInt8) :=
  match stack.findNth header.kind skip with
  | some (tag, _) => tag.ttl?
  | none => return none

def decTtl (stack : RawStack) (header : TtlHeader) : Checked RawStack :=
  stack.editNth header.kind 0 fun tag => do
    match ← tag.ttl? with
    | some ttl =>
      if ttl = 0 then throw (.failed (.invalidTtl header))
      else do
        let lower ← Checked.pred ttl
        let tag ← tag.withTtl lower
        return .replace tag
    | none => throw (.failed (.invalidTtl header))

/-- The next header that carries a time to live, with those inside it. -/
def nextTtlHeader : RawStack → Checked (Option (RawTag × RawStack))
  | [] => return none
  | tag :: rest => do
    match ← tag.ttl? with
    | some _ => return some (tag, rest)
    | none => nextTtlHeader rest

def copyLayout? (stack : RawStack) : Checked (Option CopyLayout) := do
  match ← nextTtlHeader stack with
  | none => return none
  | some (outer, rest) =>
    let inner ← nextTtlHeader rest
    match outer, inner with
    | .mpls tag, inner =>
      if 1 < tag.labels.length then return some .labels
      else
        match inner with
        | some (.ipv4 _, _) => return some .mplsOverIpv4
        | _ => return none
    | .ipv4 _, some (.ipv4 _, _) => return some .ipv4OverIpv4
    | _, _ => return none

/-- Copy between the two outermost labels, if there are two. -/
def withinLabels (direction : CopyDirection) : RawTag → RawTag
  | .mpls ⟨etherType, outer :: inner :: others⟩ =>
    match direction with
    | .outward => .mpls ⟨etherType, { outer with ttl := inner.ttl } :: inner :: others⟩
    | .inward => .mpls ⟨etherType, outer :: { inner with ttl := outer.ttl } :: others⟩
  | tag => tag

def copyBetween (stack : RawStack) (direction : CopyDirection) (outer inner : TtlHeader × Nat) :
    Checked RawStack := do
  let (source, target) :=
    match direction with
    | .outward => (inner, outer)
    | .inward => (outer, inner)
  match ← stack.ttlAt? source.1 source.2 with
  | some ttl => stack.setTtlAt target.1 target.2 ttl
  | none => return stack

def copyTtl (stack : RawStack) (direction : CopyDirection) : Checked RawStack := do
  match ← stack.copyLayout? with
  | some .labels => modifyFirst .mpls (fun tag => return withinLabels direction tag) stack
  | some .mplsOverIpv4 => stack.copyBetween direction (.mpls, 0) (.ipv4, 0)
  | some .ipv4OverIpv4 => stack.copyBetween direction (.ipv4, 0) (.ipv4, 1)
  | none => return stack

def vlanIdentity (stack : RawStack) (defaults : VlanDefaults) : UInt16 × UInt8 :=
  match stack.findNth .vlan 0 with
  | some (.vlan tag, _) => (tag.vid, tag.pcp)
  | _ => (defaults.vid, defaults.pcp)

def pushVlan (stack : RawStack) (etherType : UInt16) (defaults : VlanDefaults) :
    Checked RawStack :=
  let (vid, pcp) := stack.vlanIdentity defaults
  stack.editNth .ether 0 fun tag => return .insertAfter tag (.vlan { pcp, vid, etherType })

def popVlan (stack : RawStack) : Checked RawStack :=
  if stack.length ≤ 1 then return stack else stack.editNth .vlan 0 fun _ => return .delete

def duplicateLabel : RawTag → Checked RawEdit
  | .mpls tag => do
    let entry ← tag.outermost
    let tag ← tag.push { entry with bos := false }
    return .replace (.mpls tag)
  | tag => return .replace tag

def pushMpls (stack : RawStack) (etherType : UInt16) : Checked RawStack := do
  if stack.contains .mpls then stack.editNth .mpls 0 duplicateLabel
  else
    let ttl ← stack.ttlAt? .ipv4 0
    let entry : LabelEntry := { label := 0, tc := 0, bos := true, ttl := ttl.getD 0 }
    let anchor : HeaderKind := if stack.contains .vlan then .vlan else .ether
    stack.editNth anchor 0 fun tag => return .insertAfter tag (.mpls (.single etherType entry))

def dropLabel : RawTag → Checked RawEdit
  | .mpls tag => do
    match ← tag.pop with
    | (some _, rest) => return .replace (.mpls rest)
    | (none, _) => return .delete
  | tag => return .replace tag

def popMpls (stack : RawStack) : Checked RawStack := stack.editNth .mpls 0 dropLabel

end RawStack

/-! ### Actions -/

/-- The headers after an action. -/
def Action.onHeaders (defaults : VlanDefaults) (stack : RawStack) : Action → Checked RawStack
  | .setMplsTtl ttl => stack.setTtlAt .mpls 0 ttl
  | .decMplsTtl => stack.decTtl .mpls
  | .setNwTtl ttl => stack.setTtlAt .ipv4 0 ttl
  | .decNwTtl => stack.decTtl .ipv4
  | .copyTtlOut => stack.copyTtl .outward
  | .copyTtlIn => stack.copyTtl .inward
  | .pushVlan etherType => stack.pushVlan etherType defaults
  | .popVlan => stack.popVlan
  | .pushMpls etherType => stack.pushMpls etherType
  | .popMpls => stack.popMpls
  | .setField field => stack.setField field
  | .output _ | .group _ | .setQueue _ | .experimenter _ => return stack

/-- The headers that the actions of a list meet one after another, and what becomes of them. -/
structure Walk where
  stages : List RawStack
  outcome : Checked RawStack

def RawStack.walk (defaults : VlanDefaults) (stack : RawStack) : List Action → Walk
  | [] => ⟨[stack], .ok stack⟩
  | action :: rest =>
    match action.onHeaders defaults stack with
    | .error stop => ⟨[stack], .error stop⟩
    | .ok next =>
      let later := RawStack.walk defaults next rest
      ⟨stack :: later.stages, later.outcome⟩

end OpenFlow
