import OpenFlow.Proofs.Header.Positions

/-!
# Positions stay in bounds

Header stacks are lists of tags whose MPLS tags have a label, and on these the work by position
does what is done on header stacks: a tag is found at the position it has, the edit at that
position is the edit in place, and an action fails if and only if it does there. No check fails
on the way, since a fault is no outcome of an action on a header stack.
-/
namespace OpenFlow

def MplsTag.raw (tag : MplsTag) : RawMpls := ⟨tag.etherType, tag.entries⟩

def HeaderTag.raw : HeaderTag → RawTag
  | .ether header => .ether header
  | .vlan tag => .vlan tag
  | .mpls tag => .mpls tag.raw
  | .ipv4 header => .ipv4 header

def Edit.raw : Edit → RawEdit
  | .replace tag => .replace tag.raw
  | .delete => .delete
  | .insertAfter first second => .insertAfter first.raw second.raw

def HeaderStack.raw (stack : HeaderStack) : RawStack := stack.tags.map HeaderTag.raw

/-! ### Labels -/

namespace RawMpls

theorem ofEntries?_eq_map (etherType : UInt16) (entries : List LabelEntry) :
    ofEntries? etherType entries = (MplsTag.ofEntries? etherType entries).map MplsTag.raw := by
  cases entries <;> rfl

theorem decode_eq_map (document : Document) :
    decode document = (Serial.decode document : Except _ MplsTag).map MplsTag.raw := by
  unfold decode instSerialMplsTag
  simp only [ofEntries?_eq_map, bind, Except.bind]
  cases document.fields ["ether_type", "stack"] with
  | error error => rfl
  | ok fields =>
    rcases fields with _ | ⟨etherType, _ | ⟨stack, _ | ⟨third, others⟩⟩⟩
    case cons.cons.nil =>
      dsimp only
      cases (OpenFlow.decode etherType : Except _ UInt16) with
      | error error => rfl
      | ok etherType =>
        dsimp only
        cases (OpenFlow.decode stack : Except _ (List LabelEntry)) with
        | error error => rfl
        | ok entries => cases entries <;> rfl
    all_goals rfl

theorem length_labels_raw (tag : MplsTag) : tag.raw.labels.length = tag.size := rfl

@[simp]
theorem outermost_raw (tag : MplsTag) : tag.raw.outermost = .ok tag.outermost := rfl

@[simp]
theorem withOutermost_raw (tag : MplsTag) (entry : LabelEntry) :
    tag.raw.withOutermost entry = .ok (tag.withOutermost entry).raw := by
  rfl

theorem withEntry_raw (tag : MplsTag) (index : Nat) (entry : LabelEntry) :
    tag.raw.withEntry index entry = (tag.withEntry index entry).raw := by
  cases index <;> rfl

@[simp]
theorem push_raw (tag : MplsTag) (entry : LabelEntry) :
    tag.raw.push entry = .ok (tag.push entry).raw := by
  rfl

/-- The only label there is cannot be popped. -/
@[simp]
theorem pop_raw (tag : MplsTag) :
    tag.raw.pop = .ok (match tag.pop? with
      | some (entry, rest) => (some entry, rest.raw)
      | none => (none, tag.raw)) := by
  obtain ⟨etherType, outermost, inner⟩ := tag
  cases inner <;> rfl

end RawMpls

/-! ### Tags -/

namespace RawTag

@[simp]
theorem kind_raw (tag : HeaderTag) : tag.raw.kind = tag.kind := by cases tag <;> rfl

@[simp]
theorem ttl?_raw (tag : HeaderTag) : tag.raw.ttl? = .ok tag.ttl? := by cases tag <;> rfl

@[simp]
theorem withTtl_raw (ttl : UInt8) (tag : HeaderTag) :
    tag.raw.withTtl ttl = .ok (tag.withTtl ttl).raw := by
  cases tag <;> rfl

@[simp]
theorem write_raw (field : SetField) (tag : HeaderTag) :
    tag.raw.write field = .ok (field.write tag).raw := by
  cases tag <;> rfl

end RawTag

/-! ### Stacks -/

namespace RawStack

/-- The position of the tag is the number of tags outside it, counted from where the list
starts. -/
theorem findNth_from (kind : HeaderKind) (tags : List HeaderTag) (start skip : Nat) :
    (((tags.map HeaderTag.raw).zipIdx start).filter fun found => found.1.kind = kind)[skip]? =
      (Focus.on? kind skip tags).map fun focus => (focus.tag.raw, start + focus.outer.length) := by
  induction tags generalizing start skip with
  | nil => rfl
  | cons first rest ih =>
    -- Further in, the positions count from one more.
    have later : ∀ skip, (((rest.map HeaderTag.raw).zipIdx (start + 1)).filter
          fun found => found.1.kind = kind)[skip]? =
        ((Focus.on? kind skip rest).map (Focus.under first)).map
          fun focus => (focus.tag.raw, start + focus.outer.length) := by
      intro skip
      rw [ih, Option.map_map]
      congr 1
      funext focus
      simp [Focus.under, Nat.add_assoc, Nat.add_comm 1]
    by_cases same : first.kind = kind
    · cases skip with
      | zero => simp [Focus.on?, same]
      | succ skip => simpa [Focus.on?, same] using later skip
    · simpa [Focus.on?, same] using later skip

theorem findNth_raw (stack : HeaderStack) (kind : HeaderKind) (skip : Nat) :
    stack.raw.findNth kind skip =
      (Focus.on? kind skip stack.tags).map fun focus => (focus.tag.raw, focus.outer.length) := by
  have found := findNth_from kind stack.tags 0 skip
  simp only [Nat.zero_add] at found
  exact found

theorem contains_raw (stack : HeaderStack) (kind : HeaderKind) :
    stack.raw.contains kind = stack.contains kind := by
  rw [RawStack.contains, findNth_raw, Option.isSome_map]
  rcases stack.lacks_or_first kind with lacks | ⟨outer, tag, inner, rfl, same, first⟩
  · rw [HeaderStack.on?_of_lacks lacks]
    exact (Bool.eq_false_iff.mpr fun found => lacks (HeaderStack.contains_iff.mp found)).symm
  · rw [HeaderStack.on?_first first same]
    exact (HeaderStack.contains_iff.mpr (by simp [HeaderStack.kinds, same])).symm

/-- An edit finds its position, the end of what it inserts after included. -/
theorem put_raw (outer inner : List RawTag) (tag : RawTag) (edit : Edit) :
    put (outer ++ tag :: inner) outer.length edit.raw =
      .ok (outer ++ edit.tags.map HeaderTag.raw ++ inner) := by
  cases edit with
  | replace new => simp [put, Edit.raw, Edit.tags, Checked.set_append]
  | delete => simp [put, Edit.raw, Edit.tags, Checked.remove_append]
  | insertAfter first second =>
    have replaced := Checked.set_append outer inner tag first.raw
    simp only [put, Edit.raw, replaced, bind, Except.bind, Checked.insert_append]
    simp [Edit.tags]

/-- An edit at the position of the tag is the edit in place. -/
theorem editNth_raw {edit : HeaderTag → Except ActionError Edit}
    {rawEdit : RawTag → Checked RawEdit}
    (agree : ∀ tag : HeaderTag, rawEdit tag.raw = Checked.ofResult ((edit tag).map Edit.raw))
    (stack : HeaderStack) (kind : HeaderKind) (skip : Nat) :
    stack.raw.editNth kind skip rawEdit =
      Checked.ofResult ((stack.editNthM kind skip edit).map HeaderStack.raw) := by
  unfold RawStack.editNth HeaderStack.editNthM
  rw [findNth_raw]
  cases found : Focus.on? kind skip stack.tags with
  | none => rfl
  | some focus =>
    -- The tag stands behind as many tags as its position says.
    have split : stack.raw = focus.outer.map HeaderTag.raw ++
        focus.tag.raw :: focus.inner.map HeaderTag.raw := by
      rw [HeaderStack.raw, ← Focus.replaceBy_of_on? found]
      simp [Focus.replaceBy]
    simp only [Option.map_some, agree]
    cases edit focus.tag with
    | error error => rfl
    | ok outcome =>
      have placed := put_raw (focus.outer.map HeaderTag.raw) (focus.inner.map HeaderTag.raw)
        focus.tag.raw outcome
      rw [← split, List.length_map] at placed
      change stack.raw.put focus.outer.length outcome.raw =
        .ok (HeaderStack.mk (focus.replaceBy outcome.tags)).raw
      rw [placed]
      simp [HeaderStack.raw, Focus.replaceBy]

/-- An edit that cannot fail. -/
theorem editNth_raw_of_ok {edit : HeaderTag → Edit} {rawEdit : RawTag → Checked RawEdit}
    (agree : ∀ tag : HeaderTag, rawEdit tag.raw = .ok (edit tag).raw)
    (stack : HeaderStack) (kind : HeaderKind) (skip : Nat) :
    stack.raw.editNth kind skip rawEdit = .ok (stack.editNth kind skip edit).raw := by
  rw [@editNth_raw (fun tag => .ok (edit tag)) rawEdit agree]
  unfold HeaderStack.editNth HeaderStack.editNthM
  cases Focus.on? kind skip stack.tags <;> rfl

theorem modifyFirst_raw {change : HeaderTag → HeaderTag} {rawChange : RawTag → Checked RawTag}
    (agree : ∀ tag : HeaderTag, rawChange tag.raw = .ok (change tag).raw)
    (stack : HeaderStack) (kind : HeaderKind) :
    modifyFirst kind rawChange stack.raw =
      .ok ((stack.modifyFirst? kind change).getD stack).raw := by
  -- The walk through the stack is one through its tags, and stops changing them at the first.
  have through : ∀ tags : List HeaderTag,
      modifyFirst kind rawChange (tags.map HeaderTag.raw) =
        .ok (((HeaderStack.modifyFirst?.go kind change tags).getD tags).map HeaderTag.raw) := by
    intro tags
    induction tags with
    | nil => rfl
    | cons first rest ih =>
      by_cases same : first.kind = kind
      · simp [modifyFirst, HeaderStack.modifyFirst?.go, same, agree, bind, Except.bind, pure,
          Except.pure]
      · simp only [modifyFirst, HeaderStack.modifyFirst?.go, List.map_cons, RawTag.kind_raw, same,
          if_false, ih]
        cases HeaderStack.modifyFirst?.go kind change rest <;> rfl
  rw [HeaderStack.raw, through, HeaderStack.modifyFirst?]
  cases HeaderStack.modifyFirst?.go kind change stack.tags <;> rfl

/-! ### Times to live -/

theorem setField_raw (stack : HeaderStack) (field : SetField) :
    stack.raw.setField field = .ok (stack.setField field).raw := by
  apply modifyFirst_raw
  intro tag
  exact RawTag.write_raw field tag

theorem setTtlAt_raw (stack : HeaderStack) (header : TtlHeader) (skip : Nat) (ttl : UInt8) :
    stack.raw.setTtlAt header skip ttl = .ok (stack.setTtlAt header skip ttl).raw := by
  apply editNth_raw_of_ok
  intro tag
  rw [RawTag.withTtl_raw]
  rfl

theorem ttlAt?_raw (stack : HeaderStack) (header : TtlHeader) (skip : Nat) :
    stack.raw.ttlAt? header skip = .ok (stack.ttlAt? header skip) := by
  unfold ttlAt? HeaderStack.ttlAt? HeaderStack.findNth
  rw [findNth_raw]
  cases Focus.on? header.kind skip stack.tags with
  | none => rfl
  | some focus => exact RawTag.ttl?_raw focus.tag

/-- A time to live that is lowered is not zero. -/
theorem decTtl_raw (stack : HeaderStack) (header : TtlHeader) :
    stack.raw.decTtl header = Checked.ofResult ((stack.decTtl header).map HeaderStack.raw) := by
  apply editNth_raw
  intro tag
  rw [RawTag.ttl?_raw]
  cases tag.ttl? with
  | none => rfl
  | some ttl =>
    by_cases exhausted : ttl = 0
    · simp only [exhausted, reduceIte, bind, Except.bind]
      rfl
    · have lower := Checked.pred_of_ne_zero exhausted
      simp only [exhausted, reduceIte, bind, Except.bind, lower, RawTag.withTtl_raw]
      rfl

/-- The headers that carry a time to live come up one after another. -/
theorem nextTtlHeader_raw (tags : List HeaderTag) :
    (tags.filter (fun tag => tag.ttl?.isSome) = [] ∧
      nextTtlHeader (tags.map HeaderTag.raw) = .ok none) ∨
    ∃ (tag : HeaderTag) (rest : List HeaderTag), tags.filter (fun tag => tag.ttl?.isSome) =
        tag :: rest.filter (fun tag => tag.ttl?.isSome) ∧
      nextTtlHeader (tags.map HeaderTag.raw) = .ok (some (tag.raw, rest.map HeaderTag.raw)) := by
  induction tags with
  | nil => exact .inl ⟨rfl, rfl⟩
  | cons first rest ih =>
    cases carried : first.ttl? with
    | none => simpa [nextTtlHeader, carried, bind, Except.bind] using ih
    | some ttl =>
      refine .inr ⟨first, rest, ?_, ?_⟩
      · simp [carried]
      · simp [nextTtlHeader, carried, bind, Except.bind, pure, Except.pure]

theorem copyLayout?_raw (stack : HeaderStack) :
    stack.raw.copyLayout? = .ok stack.copyLayout? := by
  unfold copyLayout? HeaderStack.copyLayout? HeaderStack.ttlHeaders HeaderStack.raw
  rcases nextTtlHeader_raw stack.tags with ⟨none, ended⟩ | ⟨outer, rest, carrying, next⟩
  · rw [none, ended]
    rfl
  · rw [carrying, next]
    -- The second header is looked for where the first one left off.
    rcases nextTtlHeader_raw rest with ⟨none, ended⟩ | ⟨inner, others, later, after⟩
    · simp only [bind, Except.bind, none, ended]
      cases outer with
      | mpls tag =>
        by_cases several : 1 < tag.size
        · simp only [HeaderTag.raw, RawMpls.length_labels_raw, several, reduceIte]
          rfl
        · simp only [HeaderTag.raw, RawMpls.length_labels_raw, several, reduceIte]
          rfl
      | _ => rfl
    · simp only [bind, Except.bind, later, after]
      cases outer with
      | mpls tag =>
        by_cases several : 1 < tag.size
        · simp only [HeaderTag.raw, RawMpls.length_labels_raw, several, reduceIte]
          rfl
        · simp only [HeaderTag.raw, RawMpls.length_labels_raw, several, reduceIte]
          cases inner <;> rfl
      | ipv4 header => cases inner <;> rfl
      | _ => rfl

/-- There are two labels when copying between labels is the layout, and nothing is copied
otherwise. -/
theorem withinLabels_raw (direction : CopyDirection) (tag : HeaderTag) :
    withinLabels direction tag.raw = (direction.withinLabels tag).raw := by
  cases tag with
  | mpls tag =>
    obtain ⟨etherType, outermost, inner⟩ := tag
    cases inner with
    | nil => rfl
    | cons second others => cases direction <;> rfl
  | _ => rfl

theorem copyBetween_raw (stack : HeaderStack) (direction : CopyDirection)
    (outer inner : TtlHeader × Nat) :
    stack.raw.copyBetween direction outer inner =
      .ok (stack.copyBetween direction outer inner).raw := by
  unfold copyBetween HeaderStack.copyBetween
  cases direction with
  | outward =>
    simp only [ttlAt?_raw, bind, Except.bind]
    cases stack.ttlAt? inner.1 inner.2 with
    | none => rfl
    | some ttl => exact setTtlAt_raw stack outer.1 outer.2 ttl
  | inward =>
    simp only [ttlAt?_raw, bind, Except.bind]
    cases stack.ttlAt? outer.1 outer.2 with
    | none => rfl
    | some ttl => exact setTtlAt_raw stack inner.1 inner.2 ttl

theorem copyTtl_raw (stack : HeaderStack) (direction : CopyDirection) :
    stack.raw.copyTtl direction = .ok ((stack.copyTtl? direction).getD stack).raw := by
  unfold copyTtl HeaderStack.copyTtl?
  rw [copyLayout?_raw]
  cases stack.copyLayout? with
  | none => rfl
  | some layout =>
    cases layout with
    | labels =>
      apply modifyFirst_raw
      intro tag
      rw [withinLabels_raw]
      rfl
    | mplsOverIpv4 => exact copyBetween_raw stack direction (.mpls, 0) (.ipv4, 0)
    | ipv4OverIpv4 => exact copyBetween_raw stack direction (.ipv4, 0) (.ipv4, 1)

/-! ### Pushing and popping -/

theorem vlanIdentity_raw (stack : HeaderStack) (defaults : VlanDefaults) :
    stack.raw.vlanIdentity defaults = stack.vlanIdentity defaults := by
  unfold vlanIdentity HeaderStack.vlanIdentity HeaderStack.find HeaderStack.findNth
  rw [findNth_raw]
  cases Focus.on? .vlan 0 stack.tags with
  | none => rfl
  | some focus =>
    obtain ⟨outer, tag, inner⟩ := focus
    cases tag <;> rfl

theorem pushVlan_raw (stack : HeaderStack) (etherType : UInt16) (defaults : VlanDefaults) :
    stack.raw.pushVlan etherType defaults = .ok (stack.pushVlan etherType defaults).raw := by
  unfold pushVlan HeaderStack.pushVlan
  rw [vlanIdentity_raw]
  apply editNth_raw_of_ok
  intro tag
  rfl

theorem popVlan_raw (stack : HeaderStack) : stack.raw.popVlan = .ok stack.popVlan.raw := by
  unfold popVlan HeaderStack.popVlan
  have long : stack.raw.length = stack.size := List.length_map HeaderTag.raw
  rw [long]
  split
  · rfl
  · apply editNth_raw_of_ok
    intro tag
    rfl

theorem pushMpls_raw (stack : HeaderStack) (etherType : UInt16) :
    stack.raw.pushMpls etherType = .ok (stack.pushMpls etherType).raw := by
  unfold pushMpls HeaderStack.pushMpls
  rw [contains_raw, contains_raw]
  split
  · apply editNth_raw_of_ok
    intro tag
    cases tag <;> rfl
  · rw [ttlAt?_raw]
    apply editNth_raw_of_ok
    intro tag
    rfl

theorem popMpls_raw (stack : HeaderStack) : stack.raw.popMpls = .ok stack.popMpls.raw := by
  apply editNth_raw_of_ok
  intro tag
  cases tag with
  | mpls tag =>
    simp only [dropLabel, HeaderTag.raw, RawMpls.pop_raw, HeaderStack.dropLabel]
    cases tag.pop? <;> rfl
  | _ => rfl

end RawStack

/-- An action does to headers by position what it does to header stacks, and fails on both or
on neither. -/
theorem Action.onHeaders_raw (defaults : VlanDefaults) (packet : Packet) (action : Action) :
    action.onHeaders defaults packet.headers.raw =
      Checked.ofResult ((action.transform defaults packet).map fun next => next.headers.raw) := by
  cases action with
  | setMplsTtl ttl => exact RawStack.setTtlAt_raw packet.headers .mpls 0 ttl
  | setNwTtl ttl => exact RawStack.setTtlAt_raw packet.headers .ipv4 0 ttl
  | decMplsTtl =>
    simp only [onHeaders, RawStack.decTtl_raw, transform, Packet.decTtl]
    cases packet.headers.decTtl .mpls <;> rfl
  | decNwTtl =>
    simp only [onHeaders, RawStack.decTtl_raw, transform, Packet.decTtl]
    cases packet.headers.decTtl .ipv4 <;> rfl
  | copyTtlOut => exact RawStack.copyTtl_raw packet.headers .outward
  | copyTtlIn => exact RawStack.copyTtl_raw packet.headers .inward
  | pushVlan etherType => exact RawStack.pushVlan_raw packet.headers etherType defaults
  | popVlan => exact RawStack.popVlan_raw packet.headers
  | pushMpls etherType => exact RawStack.pushMpls_raw packet.headers etherType
  | popMpls => exact RawStack.popMpls_raw packet.headers
  | setField field => exact RawStack.setField_raw packet.headers field
  | _ => rfl

end OpenFlow
