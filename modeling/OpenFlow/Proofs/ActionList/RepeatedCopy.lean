import OpenFlow.Proofs.ActionList.Shape

/-!
# Copying the time to live again

A copy leaves its two headers with one value and the layout as it was. Copying once more, in
either direction, finds the same two headers and has nothing left to change. So in a row of
copies only the first changes the packet, and where copying is not defined none of them does
and each of them is noted.
-/
namespace OpenFlow

/-! ### What tells stacks apart -/

/-- Labels are told by their times to live and the rest of them. -/
theorem LabelEntry.eq_of_map_ttl {entries others : List LabelEntry}
    (rest : entries.map (fun entry => { entry with ttl := 0 }) =
      others.map fun entry => { entry with ttl := 0 })
    (ttls : entries.map LabelEntry.ttl = others.map LabelEntry.ttl) : entries = others := by
  induction entries generalizing others with
  | nil => exact (List.map_eq_nil_iff.mp rest.symm).symm
  | cons entry entries ih =>
    cases others with
    | nil => cases rest
    | cons other others =>
      obtain ⟨restHere, restLater⟩ := List.cons.inj rest
      obtain ⟨ttlHere, ttlsLater⟩ := List.cons.inj ttls
      have same : entry = other := by
        cases entry
        cases restHere
        cases ttlHere
        rfl
      rw [same, ih restLater ttlsLater]

namespace HeaderTag

variable {tag other : HeaderTag}

theorem length_ttls_withoutTtls (tag : HeaderTag) :
    tag.withoutTtls.ttls.length = tag.ttls.length := by
  cases tag <;> simp [withoutTtls, ttls, MplsTag.entries]

theorem eq_of_withoutTtls (rest : tag.withoutTtls = other.withoutTtls)
    (same : tag.ttls = other.ttls) : tag = other := by
  cases tag with
  | mpls tag =>
    cases other with
    | mpls other =>
      obtain ⟨etherType, outermost, inner⟩ := tag
      obtain ⟨etherType', outermost', inner'⟩ := other
      obtain ⟨rfl, restOutermost, restInner⟩ := MplsTag.mk.inj (HeaderTag.mpls.inj rest)
      have entries : outermost :: inner = outermost' :: inner' :=
        LabelEntry.eq_of_map_ttl (List.cons_eq_cons.mpr ⟨restOutermost, restInner⟩) same
      obtain ⟨rfl, rfl⟩ := List.cons.inj entries
      rfl
    | _ => cases rest
  | ipv4 header =>
    cases other with
    | ipv4 other =>
      cases header
      cases rest
      cases same
      rfl
    | _ => cases rest
  | _ =>
    cases other <;> cases rest
    rfl

theorem eq_of_map_withoutTtls {tags others : List HeaderTag}
    (rest : tags.map withoutTtls = others.map withoutTtls)
    (same : tags.flatMap ttls = others.flatMap ttls) : tags = others := by
  induction tags generalizing others with
  | nil => exact (List.map_eq_nil_iff.mp rest.symm).symm
  | cons tag tags ih =>
    cases others with
    | nil => cases rest
    | cons other others =>
      obtain ⟨here, later⟩ := List.cons.inj rest
      have lengths : tag.ttls.length = other.ttls.length := by
        rw [← tag.length_ttls_withoutTtls, here, other.length_ttls_withoutTtls]
      -- Both tags have as many times to live, so the two lists of them are cut at one place.
      obtain ⟨ttlsHere, ttlsLater⟩ := List.append_inj same lengths
      rw [eq_of_withoutTtls here ttlsHere, ih later ttlsLater]

end HeaderTag

/-- A stack is told by its times to live and the rest of it. -/
theorem HeaderStack.eq_of_withoutTtls {stack twin : HeaderStack}
    (rest : stack.withoutTtls = twin.withoutTtls) (same : stack.ttls = twin.ttls) :
    stack = twin := by
  have tags : stack.tags = twin.tags :=
    HeaderTag.eq_of_map_withoutTtls (congrArg HeaderStack.tags rest) same
  exact congrArg HeaderStack.mk tags

/-! ### A copy of a copy -/

/-- Two slots between which was copied have one value, so copying again leaves them as they are. -/
theorem CopyDirection.onSlots_settled (direction : CopyDirection) (first second : TtlSlot) :
    ∃ upper lower, direction.onSlots first second = [upper, lower] ∧
      ∀ again : CopyDirection, again.onSlots upper lower = [upper, lower] := by
  cases direction with
  | outward =>
    refine ⟨{ first with ttl := second.ttl }, second, rfl, fun again => ?_⟩
    cases again <;> rfl
  | inward =>
    refine ⟨first, { second with ttl := first.ttl }, rfl, fun again => ?_⟩
    cases again <;> rfl

namespace HeaderStack

variable {stack copied : HeaderStack} {direction : CopyDirection}

theorem isNone_copyTtl? (stack : HeaderStack) (direction : CopyDirection) :
    (stack.copyTtl? direction).isNone = stack.copyLayout?.isNone :=
  Option.isNone_map

/-- Where a copy was defined, so is a copy of its result. -/
theorem exists_copyTtl?_of_copied (defined : stack.copyTtl? direction = some copied)
    (again : CopyDirection) : ∃ twice, copied.copyTtl? again = some twice := by
  -- The layout is read off the shape, and a copy only writes times to live.
  have shape : copied.shape = stack.shape := by
    rw [← shape_withoutTtls, withoutTtls_copyTtl? defined, shape_withoutTtls]
  have still : (copied.copyTtl? again).isNone = false := by
    rw [isNone_copyTtl?_congr shape, isNone_copyTtl?, ← isNone_copyTtl? stack direction, defined]
    rfl
  exact Option.isSome_iff_exists.mp (by simpa using still)

/-- A copy is copied onto itself, in both directions. -/
theorem copyTtl?_of_copied (defined : stack.copyTtl? direction = some copied)
    (again : CopyDirection) : copied.copyTtl? again = some copied := by
  obtain ⟨twice, definedToo⟩ := exists_copyTtl?_of_copied defined again
  obtain ⟨-, first, second, beneath, -, -, slots⟩ := copies_of_copyTtl? defined
  obtain ⟨rest, upper', lower', beneath', split, -, slotsToo⟩ := copies_of_copyTtl? definedToo
  -- The second copy is between the slots of the first, which have one value by now.
  obtain ⟨upper, lower, pair, settled⟩ := direction.onSlots_settled first second
  rw [slots, pair] at split
  obtain ⟨rfl, rfl, rfl⟩ : upper = upper' ∧ lower = lower' ∧ beneath = beneath' := by
    simpa using split
  have unchanged : twice.slots = copied.slots := by
    rw [slotsToo, settled, slots, pair]
  have ttls : twice.ttls = copied.ttls := by
    rw [← map_ttl_slots, unchanged, map_ttl_slots]
  rw [definedToo, eq_of_withoutTtls rest ttls]

end HeaderStack

/-! ### Rows of copies -/

/-- The action that copies in a direction. -/
def CopyDirection.action : CopyDirection → Action
  | .outward => .copyTtlOut
  | .inward => .copyTtlIn

namespace CopyDirection

theorem transform_action (direction : CopyDirection) (defaults : VlanDefaults) (packet : Packet) :
    direction.action.transform defaults packet = .ok (packet.copyTtl direction) := by
  cases direction <;> rfl

theorem effects_action (direction : CopyDirection) (packet : Packet) :
    direction.action.effects packet = [] := by
  cases direction <;> rfl

theorem eventsOf_action (direction : CopyDirection) (datapath : Datapath) (packet : Packet) :
    datapath.eventsOf packet direction.action =
      datapath.noteUndefinedCopy direction.action direction packet := by
  cases direction <;> rfl

end CopyDirection

namespace Packet

theorem copyTtl_of_undefined {packet : Packet} (undefined : packet.headers.copyLayout? = none)
    (direction : CopyDirection) : packet.copyTtl direction = packet := by
  have none : packet.headers.copyTtl? direction = none := by
    rw [HeaderStack.copyTtl?, undefined, Option.map_none]
  rw [copyTtl, mapHeaders, none, Option.getD_none]

/-- After a copy there is nothing left to copy. -/
theorem copyTtl_copyTtl (packet : Packet) (direction again : CopyDirection) :
    (packet.copyTtl direction).copyTtl again = packet.copyTtl direction := by
  cases defined : packet.headers.copyTtl? direction with
  | none =>
    have undefined : packet.headers.copyLayout? = none := by
      rw [← Option.isNone_iff_eq_none, ← HeaderStack.isNone_copyTtl? _ direction, defined]
      rfl
    rw [copyTtl_of_undefined undefined, copyTtl_of_undefined undefined]
  | some copied =>
    have first : packet.copyTtl direction = { packet with headers := copied } := by
      rw [copyTtl, mapHeaders, defined, Option.getD_some]
    have second : copied.copyTtl? again = some copied :=
      HeaderStack.copyTtl?_of_copied defined again
    rw [first, copyTtl, mapHeaders, second, Option.getD_some]

end Packet

namespace Datapath

variable {datapath : Datapath} {packet : Packet}

/-- A row of copies does not change a packet with nothing left to copy. -/
theorem applyList_copies_of_settled
    (settled : ∀ direction, packet.copyTtl direction = packet) (directions : List CopyDirection) :
    datapath.applyList packet (directions.map CopyDirection.action) =
      ⟨directions.flatMap fun direction =>
        datapath.noteUndefinedCopy direction.action direction packet, .ok (packet, [])⟩ := by
  induction directions with
  | nil => rfl
  | cons direction rest ih =>
    have moved : direction.action.transform datapath.config.vlanDefaults packet = .ok packet := by
      rw [direction.transform_action, settled]
    rw [List.map_cons, applyList_cons_of_ok moved, ih, direction.eventsOf_action,
      direction.effects_action, List.flatMap_cons]
    rfl

/-- The first copy changes the packet, and each notes what it finds as the packet is now. -/
theorem applyList_copies (datapath : Datapath) (packet : Packet) (first : CopyDirection)
    (rest : List CopyDirection) :
    datapath.applyList packet ((first :: rest).map CopyDirection.action) =
      ⟨(first :: rest).flatMap fun direction =>
        datapath.noteUndefinedCopy direction.action direction packet,
        .ok (packet.copyTtl first, [])⟩ := by
  have moved := first.transform_action datapath.config.vlanDefaults packet
  have shape : (packet.copyTtl first).headers.shape = packet.headers.shape :=
    Action.shape_of_transform (by cases first <;> rfl) moved
  -- So the later notes, too, are those of the packet the row started with.
  have notes (direction : CopyDirection) :
      datapath.noteUndefinedCopy direction.action direction (packet.copyTtl first) =
        datapath.noteUndefinedCopy direction.action direction packet :=
    noteUndefinedCopy_congr shape direction.action direction
  rw [List.map_cons, applyList_cons_of_ok moved,
    applyList_copies_of_settled (packet.copyTtl_copyTtl first), first.eventsOf_action,
    first.effects_action, List.flatMap_cons]
  simp only [notes]
  rfl

/-- A copy is noted when it is not defined for the headers, whatever its direction. -/
theorem noteUndefinedCopy_eq (datapath : Datapath) (action : Action) (direction : CopyDirection)
    (packet : Packet) :
    datapath.noteUndefinedCopy action direction packet =
      if packet.headers.copyLayout? = none ∧ datapath.config.logUndefinedCopyTtl then
        datapath.logger.log .note
          (action.text ++ " undefined for headers ["
            ++ "/".intercalate (packet.headers.kinds.map HeaderKind.text) ++ "], ignored")
      else [] := by
  simp only [noteUndefinedCopy, HeaderStack.isNone_copyTtl?, Bool.and_eq_true,
    Option.isNone_iff_eq_none]

/-- In a row of copies only the first changes the packet. Where copying is not defined for the
headers, each copy of the row leaves one note, if such notes are wanted; otherwise the row
leaves no event. -/
theorem only_first_copy_matters (datapath : Datapath) (packet : Packet) (first : CopyDirection)
    (rest : List CopyDirection) :
    let row := (first :: rest).map CopyDirection.action
    let run := datapath.applyList packet row
    (∃ last, run.result = .ok (last, []) ∧
      (datapath.applyList packet [first.action]).result = .ok (last, [])) ∧
    run.journal =
      if packet.headers.copyLayout? = none ∧ datapath.config.logUndefinedCopyTtl then
        row.flatMap fun action => datapath.logger.log .note
          (action.text ++ " undefined for headers ["
            ++ "/".intercalate (packet.headers.kinds.map HeaderKind.text) ++ "], ignored")
      else [] := by
  intro row run
  have copied : run = ⟨_, .ok (packet.copyTtl first, [])⟩ :=
    datapath.applyList_copies packet first rest
  have alone := datapath.applyList_copies packet first []
  refine ⟨⟨packet.copyTtl first, congrArg Run.result copied, congrArg Run.result alone⟩, ?_⟩
  rw [copied]
  simp only [noteUndefinedCopy_eq, row, List.flatMap_map]
  split
  · rfl
  · exact List.flatMap_eq_nil_iff.mpr fun _ _ => rfl

/-- Copying outward makes both labels equal, and there is nothing left to copy inward. -/
example :
    let labels (first second : UInt8) : HeaderTag :=
      .mpls ⟨EtherType.mpls, ⟨7, 0, false, first⟩, [⟨8, 0, true, second⟩]⟩
    (applyList {} (Sample.packet [Sample.ether, labels 10 20]) [.copyTtlOut, .copyTtlIn]).result =
      .ok (Sample.packet [Sample.ether, labels 20 20], []) := rfl

end Datapath

end OpenFlow
