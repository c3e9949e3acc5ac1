import OpenFlow.Engine.ActionList
import OpenFlow.Sample

/-!
# Copying between the outermost times to live

A stack is flattened into slots, one for each label and each IPv4 header, outermost
first. Copying finds its two headers by kind and by how many of the kind to skip. What
it finds are the tags of the first two slots, whatever else the stack holds, and the
value it copies goes into one of these two slots.
-/
namespace OpenFlow

/-- The place of one time to live: a label of an MPLS tag, or an IPv4 header. -/
structure TtlSlot where
  /-- The position of the tag in the stack. -/
  position : Nat
  header : TtlHeader
  ttl : UInt8
deriving DecidableEq, Repr

/-- Copying is defined for two labels of one tag, the only label of a tag with an IPv4 header
after it, and two IPv4 headers. -/
def TtlSlot.Copyable (first second : TtlSlot) (rest : List TtlSlot) : Prop :=
  (first.header = .mpls ∧ second.header = .mpls ∧ first.position = second.position) ∨
  (first.header = .mpls ∧ (∀ slot ∈ second :: rest, slot.position ≠ first.position) ∧
    second.header = .ipv4) ∨
  (first.header = .ipv4 ∧ second.header = .ipv4)

namespace HeaderTag

def slots (position : Nat) : HeaderTag → List TtlSlot
  | .mpls tag => tag.entries.map fun entry => ⟨position, .mpls, entry.ttl⟩
  | .ipv4 header => [⟨position, .ipv4, header.ttl⟩]
  | .ether _ | .vlan _ => []

theorem of_mem_slots {tag : HeaderTag} {position : Nat} {slot : TtlSlot}
    (member : slot ∈ tag.slots position) :
    slot.position = position ∧ slot.header.kind = tag.kind := by
  cases tag with
  | mpls tag =>
    obtain ⟨entry, -, rfl⟩ := List.mem_map.mp member
    exact ⟨rfl, rfl⟩
  | ipv4 header =>
    rw [List.mem_singleton.mp member]
    exact ⟨rfl, rfl⟩
  | _ => cases member

/-- All of a tag but its times to live. -/
def withoutTtls : HeaderTag → HeaderTag
  | .mpls tag => .mpls { tag with
      outermost := { tag.outermost with ttl := 0 }
      inner := tag.inner.map fun entry => { entry with ttl := 0 } }
  | .ipv4 header => .ipv4 { header with ttl := 0 }
  | tag => tag

theorem withoutTtls_withTtl (tag : HeaderTag) (ttl : UInt8) :
    (tag.withTtl ttl).withoutTtls = tag.withoutTtls := by
  cases tag <;> rfl

/-- The tag has one slot, in a header of this kind. -/
inductive Carries : HeaderTag → TtlHeader → UInt8 → Prop
  | label (tag : MplsTag) (single : tag.inner = []) :
      Carries (.mpls tag) .mpls tag.outermost.ttl
  | ipv4 (header : Ipv4Header) : Carries (.ipv4 header) .ipv4 header.ttl

variable {tag : HeaderTag} {header : TtlHeader} {ttl : UInt8}

theorem Carries.kind (carries : tag.Carries header ttl) : tag.kind = header.kind := by
  cases carries <;> rfl

theorem Carries.ttl? (carries : tag.Carries header ttl) : tag.ttl? = some ttl := by
  cases carries <;> rfl

theorem Carries.slots (carries : tag.Carries header ttl) (position : Nat) :
    tag.slots position = [⟨position, header, ttl⟩] := by
  cases carries with
  | label tag single => simp [HeaderTag.slots, MplsTag.entries, single]
  | ipv4 header => rfl

theorem Carries.withTtl (carries : tag.Carries header ttl) (other : UInt8) :
    (tag.withTtl other).Carries header other := by
  cases carries with
  | label tag single => exact .label (tag.withOutermost { tag.outermost with ttl := other }) single
  | ipv4 header => exact .ipv4 { header with ttl := other }

/-- A header that carries a time to live has one slot, or it is an MPLS tag of several labels. -/
theorem labels_or_carries (shown : tag.ttl?.isSome) :
    (∃ etherType outermost next others, tag = .mpls ⟨etherType, outermost, next :: others⟩) ∨
    ∃ header ttl, tag.Carries header ttl := by
  cases tag with
  | mpls tag =>
    obtain ⟨etherType, outermost, inner⟩ := tag
    cases inner with
    | nil => exact .inr ⟨.mpls, outermost.ttl, .label ⟨etherType, outermost, []⟩ rfl⟩
    | cons next others => exact .inl ⟨etherType, outermost, next, others, rfl⟩
  | ipv4 header => exact .inr ⟨.ipv4, header.ttl, .ipv4 header⟩
  | ether header => cases shown
  | vlan tag => cases shown

theorem Carries.withTtl_self (carries : tag.Carries header ttl) : tag.withTtl ttl = tag := by
  cases carries <;> rfl

end HeaderTag

namespace HeaderStack

def slotsFrom (position : Nat) : List HeaderTag → List TtlSlot
  | [] => []
  | tag :: rest => tag.slots position ++ slotsFrom (position + 1) rest

def slots (stack : HeaderStack) : List TtlSlot := slotsFrom 0 stack.tags

/-- All of a stack but its times to live. -/
def withoutTtls (stack : HeaderStack) : HeaderStack := ⟨stack.tags.map HeaderTag.withoutTtls⟩

theorem slotsFrom_append (position : Nat) (outer inner : List HeaderTag) :
    slotsFrom position (outer ++ inner) =
      slotsFrom position outer ++ slotsFrom (position + outer.length) inner := by
  induction outer generalizing position with
  | nil => rfl
  | cons tag outer ih =>
    simp only [List.cons_append, slotsFrom, ih, List.append_assoc, List.length_cons]
    rw [Nat.add_right_comm, Nat.add_assoc]

theorem slotsFrom_of_quiet {tags : List HeaderTag} (quiet : ∀ tag ∈ tags, tag.ttl? = none)
    (position : Nat) : slotsFrom position tags = [] := by
  induction tags generalizing position with
  | nil => rfl
  | cons tag rest ih =>
    have silent : tag.slots position = [] := by
      have none := quiet tag List.mem_cons_self
      cases tag <;> first | rfl | cases none
    rw [slotsFrom, silent, ih fun other member => quiet other (List.mem_cons_of_mem tag member),
      List.append_nil]

theorem le_position_of_mem_slotsFrom {tags : List HeaderTag} {position : Nat} {slot : TtlSlot}
    (member : slot ∈ slotsFrom position tags) : position ≤ slot.position := by
  induction tags generalizing position with
  | nil => cases member
  | cons tag rest ih =>
    rcases List.mem_append.mp member with own | later
    · exact Nat.le_of_eq (HeaderTag.of_mem_slots own).1.symm
    · exact Nat.le_of_succ_le (ih later)

/-- A slot belongs to a header that is there. -/
theorem kind_mem_of_mem_slotsFrom {tags : List HeaderTag} {position : Nat} {slot : TtlSlot}
    (member : slot ∈ slotsFrom position tags) :
    slot.header.kind ∈ tags.map HeaderTag.kind := by
  induction tags generalizing position with
  | nil => cases member
  | cons tag rest ih =>
    rw [List.map_cons, List.mem_cons]
    rcases List.mem_append.mp member with own | later
    · left
      exact (HeaderTag.of_mem_slots own).2
    · right
      exact ih later

variable {outer middle inner : List HeaderTag} {tag upper lower : HeaderTag}
variable {header above below : TtlHeader} {first second : UInt8} {skip : Nat}

theorem not_mem_kinds_of_quiet (quiet : ∀ tag ∈ outer, tag.ttl? = none) (header : TtlHeader) :
    header.kind ∉ outer.map HeaderTag.kind := by
  intro member
  obtain ⟨tag, inside, same⟩ := List.mem_map.mp member
  obtain ⟨ttl, carried⟩ := HeaderTag.exists_ttl?_of_kind same
  simp [quiet tag inside] at carried

theorem ttlAt?_append (same : tag.kind = header.kind)
    (counted : outer.countP (fun tag => tag.kind = header.kind) = skip) :
    ttlAt? ⟨outer ++ tag :: inner⟩ header skip = tag.ttl? := by
  rw [ttlAt?, findNth, ← counted, Focus.on?_append outer inner same]
  rfl

theorem setTtlAt_append (same : tag.kind = header.kind)
    (counted : outer.countP (fun tag => tag.kind = header.kind) = skip) (ttl : UInt8) :
    setTtlAt ⟨outer ++ tag :: inner⟩ header skip ttl = ⟨outer ++ tag.withTtl ttl :: inner⟩ := by
  rw [setTtlAt, editNth, editNthM, ← counted, Focus.on?_append outer inner same]
  simp [Focus.replaceBy, Edit.tags]

theorem ttl?_first (first : header.kind ∉ outer.map HeaderTag.kind)
    (own : tag.kind = header.kind) : ttl? ⟨outer ++ tag :: inner⟩ header = tag.ttl? :=
  ttlAt?_append own (countP_eq_zero_iff.mpr first)

theorem setTtl_first (first : header.kind ∉ outer.map HeaderTag.kind)
    (own : tag.kind = header.kind) (ttl : UInt8) :
    setTtl ⟨outer ++ tag :: inner⟩ header ttl = ⟨outer ++ tag.withTtl ttl :: inner⟩ :=
  replace_first first own (HeaderTag.withTtl ttl)

end HeaderStack

namespace CopyDirection

/-- The value that both headers have afterwards. -/
def pick (direction : CopyDirection) (outer inner : UInt8) : UInt8 :=
  match direction with
  | .outward => inner
  | .inward => outer

/-- Two slots after copying between them. -/
def onSlots (direction : CopyDirection) (first second : TtlSlot) : List TtlSlot :=
  match direction with
  | .outward => [{ first with ttl := second.ttl }, second]
  | .inward => [first, { second with ttl := first.ttl }]

/-- One stack is the other after copying between its first two slots. -/
def Copies (direction : CopyDirection) (stack copied : HeaderStack) : Prop :=
  copied.withoutTtls = stack.withoutTtls ∧
  ∃ first second rest, stack.slots = first :: second :: rest ∧
    first.Copyable second rest ∧ copied.slots = direction.onSlots first second ++ rest

end CopyDirection

namespace HeaderStack

variable {outer middle inner : List HeaderTag} {upper lower : HeaderTag}
variable {above below : TtlHeader} {first second : UInt8}

theorem copyBetween_append {i j : Nat} (direction : CopyDirection)
    (carriesUpper : upper.Carries above first) (carriesLower : lower.Carries below second)
    (countedUpper : outer.countP (fun tag => tag.kind = above.kind) = i)
    (countedLower : (outer ++ upper :: middle).countP (fun tag => tag.kind = below.kind) = j) :
    copyBetween ⟨outer ++ upper :: (middle ++ lower :: inner)⟩ direction (above, i) (below, j) =
      ⟨outer ++ upper.withTtl (direction.pick first second) ::
        (middle ++ lower.withTtl (direction.pick first second) :: inner)⟩ := by
  have regroup (upper lower : HeaderTag) : outer ++ upper :: (middle ++ lower :: inner) =
      (outer ++ upper :: middle) ++ lower :: inner := by simp
  have upperTtl : ttlAt? ⟨outer ++ upper :: (middle ++ lower :: inner)⟩ above i = some first :=
    (ttlAt?_append carriesUpper.kind countedUpper).trans carriesUpper.ttl?
  have lowerTtl : ttlAt? ⟨outer ++ upper :: (middle ++ lower :: inner)⟩ below j = some second := by
    rw [regroup]
    exact (ttlAt?_append carriesLower.kind countedLower).trans carriesLower.ttl?
  cases direction with
  | outward =>
    -- The inner header is read and the outer one written; writing the inner one would do nothing.
    simp only [copyBetween, lowerTtl, CopyDirection.pick, carriesLower.withTtl_self]
    exact setTtlAt_append carriesUpper.kind countedUpper second
  | inward =>
    simp only [copyBetween, upperTtl, CopyDirection.pick, carriesUpper.withTtl_self]
    rw [regroup, setTtlAt_append carriesLower.kind countedLower, ← regroup]

theorem slots_between (quietOuter : ∀ tag ∈ outer, tag.ttl? = none)
    (quietMiddle : ∀ tag ∈ middle, tag.ttl? = none) (carriesUpper : upper.Carries above first) :
    slots ⟨outer ++ upper :: (middle ++ lower :: inner)⟩ =
      ⟨outer.length, above, first⟩ :: (lower.slots (outer.length + 1 + middle.length) ++
        slotsFrom (outer.length + 1 + middle.length + 1) inner) := by
  simp [slots, slotsFrom_append, slotsFrom, slotsFrom_of_quiet quietOuter,
    slotsFrom_of_quiet quietMiddle, carriesUpper.slots]

theorem copies_between (direction : CopyDirection)
    (quietOuter : ∀ tag ∈ outer, tag.ttl? = none) (quietMiddle : ∀ tag ∈ middle, tag.ttl? = none)
    (carriesUpper : upper.Carries above first) (carriesLower : lower.Carries .ipv4 second) :
    direction.Copies ⟨outer ++ upper :: (middle ++ lower :: inner)⟩
      ⟨outer ++ upper.withTtl (direction.pick first second) ::
        (middle ++ lower.withTtl (direction.pick first second) :: inner)⟩ := by
  have split {upper lower : HeaderTag} {first second : UInt8}
      (carriesUpper : upper.Carries above first) (carriesLower : lower.Carries .ipv4 second) :
      slots ⟨outer ++ upper :: (middle ++ lower :: inner)⟩ =
        ⟨outer.length, above, first⟩ :: ⟨outer.length + 1 + middle.length, .ipv4, second⟩ ::
          slotsFrom (outer.length + 1 + middle.length + 1) inner := by
    rw [slots_between quietOuter quietMiddle carriesUpper, carriesLower.slots,
      List.singleton_append]
  refine ⟨by simp [withoutTtls, HeaderTag.withoutTtls_withTtl], _, _, _,
    split carriesUpper carriesLower, ?_, ?_⟩
  · cases above with
    | mpls =>
      -- No other label is of the same tag, since all later slots have later positions.
      refine .inr (.inl ⟨rfl, fun slot member => ?_, rfl⟩)
      rcases List.mem_cons.mp member with rfl | later
      · exact Nat.ne_of_gt (by simp only; omega)
      · have beyond := le_position_of_mem_slotsFrom later
        exact Nat.ne_of_gt (by simp only; omega)
    | ipv4 => exact .inr (.inr ⟨rfl, rfl⟩)
  · rw [split (carriesUpper.withTtl _) (carriesLower.withTtl _)]
    cases direction <;> rfl

theorem slots_labels (etherType : UInt16) (outermost next : LabelEntry) (others : List LabelEntry)
    (quiet : ∀ tag ∈ outer, tag.ttl? = none) :
    slots ⟨outer ++ .mpls ⟨etherType, outermost, next :: others⟩ :: inner⟩ =
      ⟨outer.length, .mpls, outermost.ttl⟩ :: ⟨outer.length, .mpls, next.ttl⟩ ::
        (others.map (fun entry => ⟨outer.length, .mpls, entry.ttl⟩) ++
          slotsFrom (outer.length + 1) inner) := by
  simp [slots, slotsFrom_append, slotsFrom, slotsFrom_of_quiet quiet, HeaderTag.slots,
    MplsTag.entries]

theorem copies_labels (direction : CopyDirection) (etherType : UInt16)
    (outermost next : LabelEntry) (others : List LabelEntry)
    (quiet : ∀ tag ∈ outer, tag.ttl? = none) :
    let tag : HeaderTag := .mpls ⟨etherType, outermost, next :: others⟩
    direction.Copies ⟨outer ++ tag :: inner⟩ ⟨outer ++ direction.withinLabels tag :: inner⟩ := by
  intro tag
  refine ⟨?_, _, _, _, slots_labels etherType outermost next others quiet, .inl ⟨rfl, rfl, rfl⟩, ?_⟩
  · cases direction <;>
      simp [tag, withoutTtls, CopyDirection.withinLabels, HeaderTag.withoutTtls,
        MplsTag.withOutermost]
  · cases direction <;> exact slots_labels etherType _ _ others quiet

theorem ttlHeaders_first {tag : HeaderTag} {ttl : UInt8}
    (quiet : ∀ tag ∈ outer, tag.ttl? = none) (carried : tag.ttl? = some ttl) :
    ttlHeaders ⟨outer ++ tag :: inner⟩ = tag :: ttlHeaders ⟨inner⟩ := by
  have none : outer.filter (fun tag => tag.ttl?.isSome) = [] :=
    List.filter_eq_nil_iff.mpr fun tag member => by simp [quiet tag member]
  rw [ttlHeaders, List.filter_append, none, List.nil_append,
    List.filter_cons_of_pos (by simp [carried])]
  rfl

theorem copyTtl?_labels (direction : CopyDirection) (etherType : UInt16)
    (outermost next : LabelEntry) (others : List LabelEntry)
    (quiet : ∀ tag ∈ outer, tag.ttl? = none) :
    let tag : HeaderTag := .mpls ⟨etherType, outermost, next :: others⟩
    copyTtl? ⟨outer ++ tag :: inner⟩ direction =
      some ⟨outer ++ direction.withinLabels tag :: inner⟩ := by
  intro tag
  have layout : copyLayout? ⟨outer ++ tag :: inner⟩ = some .labels := by
    rw [copyLayout?, ttlHeaders_first quiet rfl]
    simp [tag, MplsTag.size, MplsTag.entries]
  -- The first MPLS tag of the stack is its first header that carries a time to live at all.
  have edited : editFirst ⟨outer ++ tag :: inner⟩ .mpls
      (fun tag => .replace (direction.withinLabels tag)) =
        ⟨outer ++ direction.withinLabels tag :: inner⟩ :=
    replace_first (not_mem_kinds_of_quiet quiet .mpls) rfl direction.withinLabels
  rw [copyTtl?, layout, Option.map_some]
  simp [getD_modifyFirst?, edited]

theorem copyTtl?_between (direction : CopyDirection)
    (quietOuter : ∀ tag ∈ outer, tag.ttl? = none) (quietMiddle : ∀ tag ∈ middle, tag.ttl? = none)
    (carriesUpper : upper.Carries above first) (carriesLower : lower.Carries .ipv4 second) :
    copyTtl? ⟨outer ++ upper :: (middle ++ lower :: inner)⟩ direction =
      some ⟨outer ++ upper.withTtl (direction.pick first second) ::
        (middle ++ lower.withTtl (direction.pick first second) :: inner)⟩ := by
  have noneOuter (header : TtlHeader) : outer.countP (fun tag => tag.kind = header.kind) = 0 :=
    countP_eq_zero_iff.mpr (not_mem_kinds_of_quiet quietOuter header)
  have noneMiddle (header : TtlHeader) : middle.countP (fun tag => tag.kind = header.kind) = 0 :=
    countP_eq_zero_iff.mpr (not_mem_kinds_of_quiet quietMiddle header)
  have headers : ttlHeaders ⟨outer ++ upper :: (middle ++ lower :: inner)⟩ =
      upper :: lower :: ttlHeaders ⟨inner⟩ := by
    rw [ttlHeaders_first quietOuter carriesUpper.ttl?,
      ttlHeaders_first quietMiddle carriesLower.ttl?]
  rw [copyTtl?, copyLayout?, headers]
  -- A lookup has to skip as many tags as there are of its kind above the header it is to find.
  cases carriesLower with
  | ipv4 lower =>
    cases carriesUpper with
    | label upper single =>
      have counted : (outer ++ .mpls upper :: middle).countP
          (fun tag => tag.kind = TtlHeader.ipv4.kind) = 0 := by
        rw [List.countP_append, noneOuter, List.countP_cons, noneMiddle]
        rfl
      have alone : ¬ 1 < upper.size := by simp [MplsTag.size, MplsTag.entries, single]
      simp only [if_neg alone]
      exact congrArg some (copyBetween_append direction (.label upper single) (.ipv4 lower)
        (noneOuter .mpls) counted)
    | ipv4 upper =>
      have counted : (outer ++ .ipv4 upper :: middle).countP
          (fun tag => tag.kind = TtlHeader.ipv4.kind) = 1 := by
        rw [List.countP_append, noneOuter, List.countP_cons, noneMiddle]
        rfl
      exact congrArg some (copyBetween_append direction (.ipv4 upper) (.ipv4 lower)
        (noneOuter .ipv4) counted)

theorem exists_first_of_ttlHeaders {tags later : List HeaderTag} {tag : HeaderTag}
    (headers : ttlHeaders ⟨tags⟩ = tag :: later) :
    ∃ outer inner, tags = outer ++ tag :: inner ∧ (∀ tag ∈ outer, tag.ttl? = none) ∧
      tag.ttl?.isSome ∧ ttlHeaders ⟨inner⟩ = later := by
  obtain ⟨outer, inner, split, quiet, shown, rest⟩ := List.filter_eq_cons_iff.mp headers
  exact ⟨outer, inner, split, by simpa using quiet, shown, rest⟩

theorem copyTtl?_eq_none {stack : HeaderStack} {later : List HeaderTag} (direction : CopyDirection)
    (headers : stack.ttlHeaders = upper :: later) (carries : upper.Carries above first)
    (noIpv4 : ∀ header rest, later ≠ .ipv4 header :: rest) : stack.copyTtl? direction = none := by
  rw [copyTtl?, copyLayout?, headers, Option.map_eq_none_iff]
  cases carries with
  | label tag single =>
    have alone : ¬ 1 < tag.size := by simp [MplsTag.size, MplsTag.entries, single]
    simp only [if_neg alone]
  | ipv4 header =>
    split
    next same => cases same
    next same =>
      cases same
      exact absurd rfl (noIpv4 _ _)
    · rfl

theorem slots_alone (quietOuter : ∀ tag ∈ outer, tag.ttl? = none)
    (quietInner : ∀ tag ∈ inner, tag.ttl? = none) (carries : upper.Carries above first) :
    slots ⟨outer ++ upper :: inner⟩ = [⟨outer.length, above, first⟩] := by
  simp [slots, slotsFrom_append, slotsFrom, slotsFrom_of_quiet quietOuter,
    slotsFrom_of_quiet quietInner, carries.slots]

/-- Nothing is copied between the first slot and a label of another tag. -/
theorem not_copyable_over_mpls {ttl : UInt8} {tag : MplsTag} {first second : TtlSlot}
    {rest : List TtlSlot} (quietOuter : ∀ tag ∈ outer, tag.ttl? = none)
    (quietMiddle : ∀ tag ∈ middle, tag.ttl? = none) (carries : upper.Carries above ttl)
    (split : slots ⟨outer ++ upper :: (middle ++ .mpls tag :: inner)⟩ = first :: second :: rest) :
    ¬ first.Copyable second rest := by
  rw [slots_between quietOuter quietMiddle carries] at split
  simp only [HeaderTag.slots, MplsTag.entries, List.map_cons, List.cons_append,
    List.cons.injEq] at split
  obtain ⟨rfl, rfl, -⟩ := split
  rintro (⟨-, -, same⟩ | ⟨-, -, ipv4⟩ | ⟨-, ipv4⟩)
  · simp only at same
    omega
  · cases ipv4
  · cases ipv4

/-- Either copying is defined and acts on the first two slots, or it is not defined for them. -/
theorem copies_or_undefined (stack : HeaderStack) (direction : CopyDirection) :
    (∃ copied, stack.copyTtl? direction = some copied ∧ direction.Copies stack copied) ∨
    (stack.copyTtl? direction = none ∧ ∀ first second rest,
      stack.slots = first :: second :: rest → ¬ first.Copyable second rest) := by
  obtain ⟨tags⟩ := stack
  -- Cut the stack at the first header that carries a time to live, and beneath it at the next.
  cases headers : ttlHeaders ⟨tags⟩ with
  | nil =>
    have quiet : ∀ tag ∈ tags, tag.ttl? = none := by simpa [ttlHeaders] using headers
    refine .inr ⟨by simp [copyTtl?, copyLayout?, headers], fun first second rest split => ?_⟩
    rw [slots, slotsFrom_of_quiet quiet] at split
    cases split
  | cons upper later =>
    obtain ⟨outer, beneath, rfl, quietOuter, shown, rest⟩ := exists_first_of_ttlHeaders headers
    rcases HeaderTag.labels_or_carries shown with
      ⟨etherType, outermost, next, others, rfl⟩ | ⟨above, ttl, carries⟩
    · exact .inl ⟨_, copyTtl?_labels direction etherType outermost next others quietOuter,
        copies_labels direction etherType outermost next others quietOuter⟩
    · cases later with
      | nil =>
        have quiet : ∀ tag ∈ beneath, tag.ttl? = none := by simpa [ttlHeaders] using rest
        refine .inr ⟨copyTtl?_eq_none direction headers carries (by simp), ?_⟩
        intro first second rest split
        rw [slots_alone quietOuter quiet carries] at split
        cases split
      | cons lower later =>
        obtain ⟨middle, inner, rfl, quietMiddle, shownToo, -⟩ := exists_first_of_ttlHeaders rest
        cases lower with
        | ipv4 header =>
          exact .inl ⟨_, copyTtl?_between direction quietOuter quietMiddle carries (.ipv4 header),
            copies_between direction quietOuter quietMiddle carries (.ipv4 header)⟩
        | mpls tag =>
          exact .inr ⟨copyTtl?_eq_none direction headers carries (by simp),
            fun _ _ _ => not_copyable_over_mpls quietOuter quietMiddle carries⟩
        | ether header => cases shownToo
        | vlan tag => cases shownToo

theorem copies_of_copyTtl? {stack copied : HeaderStack} {direction : CopyDirection}
    (defined : stack.copyTtl? direction = some copied) : direction.Copies stack copied := by
  rcases copies_or_undefined stack direction with ⟨other, returned, copies⟩ | ⟨undefined, -⟩
  · cases defined.symm.trans returned
    exact copies
  · cases defined.symm.trans undefined

/-- Copying is defined exactly when the first two slots allow it. The one it copies to then takes
the value of the other, and nothing else of the stack changes; where copying is not defined the
packet stays as it is. -/
theorem copyTtl?_acts_on_first_slots (stack : HeaderStack) (direction : CopyDirection) :
    ((stack.copyTtl? direction).isSome ↔
      ∃ first second rest, stack.slots = first :: second :: rest ∧ first.Copyable second rest) ∧
    (∀ copied, stack.copyTtl? direction = some copied →
      copied.withoutTtls = stack.withoutTtls ∧
      ∃ first second rest, stack.slots = first :: second :: rest ∧
        copied.slots =
          match direction with
          | .outward => { first with ttl := second.ttl } :: second :: rest
          | .inward => first :: { second with ttl := first.ttl } :: rest) ∧
    (stack.copyTtl? direction = none →
      ∀ packet : Packet, packet.headers = stack → packet.copyTtl direction = packet) := by
  refine ⟨⟨fun defined => ?_, ?_⟩, fun copied returned => ?_, ?_⟩
  · rcases copies_or_undefined stack direction with
      ⟨copied, -, -, first, second, rest, split, copyable, -⟩ | ⟨undefined, -⟩
    · exact ⟨first, second, rest, split, copyable⟩
    · rw [undefined] at defined
      cases defined
  · rintro ⟨first, second, rest, split, copyable⟩
    rcases copies_or_undefined stack direction with ⟨copied, defined, -⟩ | ⟨-, uncopyable⟩
    · rw [defined]
      rfl
    · exact absurd copyable (uncopyable first second rest split)
  · rcases copies_or_undefined stack direction with
      ⟨other, defined, same, first, second, rest, split, -, changed⟩ | ⟨undefined, -⟩
    · cases returned.symm.trans defined
      refine ⟨same, first, second, rest, split, ?_⟩
      cases direction <;> exact changed
    · cases returned.symm.trans undefined
  · rintro undefined packet rfl
    rw [Packet.copyTtl, Packet.mapHeaders, undefined]
    rfl

/-- A VLAN tag stands between the two headers, and more labels stand beneath them. -/
theorem copyTtl?_acts_on_first_slots_over_vlan :
    let labels (ttls : List UInt8) : HeaderTag :=
      .mpls ⟨EtherType.mpls, ⟨7, 0, true, 10⟩, ttls.map fun ttl => ⟨8, 0, true, ttl⟩⟩
    let stack (ttl : UInt8) : HeaderStack :=
      ⟨[Sample.ether, labels [], Sample.vlan 5 0, Sample.ipv4 ttl, labels [30], Sample.ipv4 40]⟩
    (stack 20).slots.map TtlSlot.ttl = [10, 20, 10, 30, 40] ∧
    (stack 20).copyTtl? .inward = some (stack 10) ∧
    (stack 10).withoutTtls = (stack 20).withoutTtls := by
  intro labels stack
  have copied : (stack 20).copyTtl? .inward = some (stack 10) := by decide
  obtain ⟨-, acts, -⟩ := copyTtl?_acts_on_first_slots (stack 20) .inward
  exact ⟨by decide, copied, (acts _ copied).1⟩

end HeaderStack

end OpenFlow
