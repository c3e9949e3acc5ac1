import OpenFlow.Header.Stack

/-!
# Times to live

Setting and decrementing the time to live of the first header of a kind, and
copying it between the two outermost headers that carry one.

Copying is defined for three layouts: two labels of one MPLS tag, the only
label of an MPLS tag over an IPv4 header, and an IPv4 header over another. Both
headers end up with the same value, the one of the inner header when copying
outward and the one of the outer header when copying inward.
-/
namespace OpenFlow

namespace HeaderStack

def setTtl (stack : HeaderStack) (header : TtlHeader) (ttl : UInt8) : HeaderStack :=
  stack.editFirst header.kind fun tag => .replace (tag.withTtl ttl)

/-- The time to live of the first header of a kind, for MPLS that of its outermost label. -/
def ttl? (stack : HeaderStack) (header : TtlHeader) : Option UInt8 :=
  (stack.find header.kind).bind fun found => found.2.ttl?

/-- A time to live of zero is left alone and reported. -/
def decTtl (stack : HeaderStack) (header : TtlHeader) : Except ActionError HeaderStack :=
  stack.editNthM header.kind 0 fun tag =>
    match tag.ttl? with
    | some ttl =>
      if ttl = 0 then .error (.invalidTtl header) else .ok (.replace (tag.withTtl (ttl - 1)))
    | none => .error (.invalidTtl header)

/-- A decrement fails only at a time to live of zero, and then names its own header. -/
theorem decTtl_eq_error_iff {stack : HeaderStack} {header : TtlHeader} {error : ActionError} :
    stack.decTtl header = .error error ↔
      error = .invalidTtl header ∧ stack.ttl? header = some 0 := by
  unfold decTtl editNthM ttl? find findNth
  cases found : Focus.on? header.kind 0 stack.tags with
  | none => simp [pure, Except.pure]
  | some focus =>
    obtain ⟨ttl, carried⟩ := HeaderTag.exists_ttl?_of_kind (Focus.kind_of_on? found)
    by_cases exhausted : ttl = 0
    · simp [carried, exhausted, bind, Except.bind, eq_comm]
    · simp [carried, exhausted, bind, Except.bind, pure, Except.pure]

/-- A decrement that succeeds sets the time to live, unless no header carries one. -/
theorem setTtl_of_decTtl {stack after : HeaderStack} {header : TtlHeader}
    (decremented : stack.decTtl header = .ok after) :
    (stack.ttl? header = none ∧ after = stack) ∨
    ∃ ttl, stack.ttl? header = some ttl ∧ ttl ≠ 0 ∧ after = stack.setTtl header (ttl - 1) := by
  unfold ttl? find findNth
  unfold decTtl editNthM at decremented
  cases found : Focus.on? header.kind 0 stack.tags with
  | none =>
    rw [found] at decremented
    cases decremented
    exact .inl ⟨rfl, rfl⟩
  | some focus =>
    obtain ⟨ttl, carried⟩ := HeaderTag.exists_ttl?_of_kind (Focus.kind_of_on? found)
    simp only [found, carried] at decremented
    split at decremented
    · cases decremented
    next positive =>
      cases decremented
      refine .inr ⟨ttl, carried, positive, ?_⟩
      rw [setTtl, editFirst, editNth, editNthM, found]
      rfl

/-- A time to live above zero that is lowered can be raised again. -/
theorem toNat_lowered {ttl : UInt8} (positive : ttl ≠ 0) : (ttl - 1).toNat + 1 = ttl.toNat := by
  have above : 0 < ttl.toNat := Nat.pos_of_ne_zero fun zero => positive (UInt8.toNat_inj.mp zero)
  have one : (ttl - 1).toNat = ttl.toNat - 1 := UInt8.toNat_sub_of_le ttl 1 above
  omega

theorem decTtl_of_pos {stack : HeaderStack} {header : TtlHeader} {ttl : UInt8}
    (shown : stack.ttl? header = some ttl) (positive : ttl ≠ 0) :
    stack.decTtl header = .ok (stack.setTtl header (ttl - 1)) := by
  cases lowered : stack.decTtl header with
  | error error =>
    obtain ⟨-, exhausted⟩ := decTtl_eq_error_iff.mp lowered
    cases shown.symm.trans exhausted
    exact absurd rfl positive
  | ok after =>
    rcases setTtl_of_decTtl lowered with ⟨absent, -⟩ | ⟨found, seen, -, rfl⟩
    · cases shown.symm.trans absent
    · cases shown.symm.trans seen
      rfl

theorem decTtl_of_lacks {stack : HeaderStack} {header : TtlHeader}
    (lacks : header.kind ∉ stack.kinds) : stack.decTtl header = .ok stack := by
  rw [decTtl, editNthM, on?_of_lacks lacks]
  rfl

end HeaderStack

inductive CopyDirection where
  | outward
  | inward
deriving DecidableEq, Repr

/-- The layouts for which copying is defined. -/
inductive CopyLayout where
  | labels
  | mplsOverIpv4
  | ipv4OverIpv4
deriving DecidableEq, Repr

/-- Copy between the two outermost labels; a tag with one label stays as it is. -/
def CopyDirection.withinLabels (direction : CopyDirection) : HeaderTag → HeaderTag
  | .mpls tag =>
    match tag.inner with
    | [] => .mpls tag
    | second :: others =>
      match direction with
      | .outward => .mpls (tag.withOutermost { tag.outermost with ttl := second.ttl })
      | .inward =>
        .mpls { tag with inner := { second with ttl := tag.outermost.ttl } :: others }
  | tag => tag

namespace HeaderStack

/-- The time to live of the header of a kind after `skip` earlier ones. -/
def ttlAt? (stack : HeaderStack) (header : TtlHeader) (skip : Nat) : Option UInt8 :=
  (stack.findNth header.kind skip).bind fun found => found.2.ttl?

def setTtlAt (stack : HeaderStack) (header : TtlHeader) (skip : Nat) (ttl : UInt8) :
    HeaderStack :=
  stack.editNth header.kind skip fun tag => .replace (tag.withTtl ttl)

/-- The headers that carry a time to live. -/
def ttlHeaders (stack : HeaderStack) : List HeaderTag :=
  stack.tags.filter fun tag => tag.ttl?.isSome

/-- The layout is told by the two outermost headers that carry a time to live. -/
def copyLayout? (stack : HeaderStack) : Option CopyLayout :=
  match stack.ttlHeaders with
  | .mpls tag :: later =>
    if 1 < tag.size then some .labels
    else
      match later with
      | .ipv4 _ :: _ => some .mplsOverIpv4
      | _ => none
  | .ipv4 _ :: .ipv4 _ :: _ => some .ipv4OverIpv4
  | _ => none

/-- Copy between two headers, each given by its kind and the number of that kind outside it. -/
def copyBetween (stack : HeaderStack) (direction : CopyDirection) (outer inner : TtlHeader × Nat) :
    HeaderStack :=
  let (source, target) :=
    match direction with
    | .outward => (inner, outer)
    | .inward => (outer, inner)
  match stack.ttlAt? source.1 source.2 with
  | some ttl => stack.setTtlAt target.1 target.2 ttl
  | none => stack

/-- Nothing when copying is not defined for the layout. -/
def copyTtl? (stack : HeaderStack) (direction : CopyDirection) : Option HeaderStack :=
  stack.copyLayout?.map fun
    | .labels => (stack.modifyFirst? .mpls direction.withinLabels).getD stack
    | .mplsOverIpv4 => stack.copyBetween direction (.mpls, 0) (.ipv4, 0)
    | .ipv4OverIpv4 => stack.copyBetween direction (.ipv4, 0) (.ipv4, 1)

end HeaderStack

end OpenFlow
