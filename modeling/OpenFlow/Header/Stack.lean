import OpenFlow.Header.Tag

/-!
# Header stacks

A packet's headers, outermost first. Tags are looked up by kind, after skipping
some earlier tags of that kind, and edited in place. A lookup that finds
nothing leaves the stack as it is: absence is never an error.
-/
namespace OpenFlow

/-- A tag of a stack between the tags outside it and those inside it. -/
structure Focus where
  outer : List HeaderTag
  tag : HeaderTag
  inner : List HeaderTag
deriving DecidableEq, Repr

namespace Focus

def under (first : HeaderTag) (focus : Focus) : Focus :=
  { focus with outer := first :: focus.outer }

/-- The tags with others in place of the one in focus. -/
def replaceBy (focus : Focus) (tags : List HeaderTag) : List HeaderTag :=
  focus.outer ++ tags ++ focus.inner

def on? (kind : HeaderKind) : Nat → List HeaderTag → Option Focus
  | _, [] => none
  | skip, tag :: rest =>
    if tag.kind = kind then
      match skip with
      | 0 => some ⟨[], tag, rest⟩
      | skip + 1 => (on? kind skip rest).map (under tag)
    else (on? kind skip rest).map (under tag)

theorem replaceBy_of_on? {kind : HeaderKind} {skip : Nat} {tags : List HeaderTag} {focus : Focus}
    (found : on? kind skip tags = some focus) : focus.replaceBy [focus.tag] = tags := by
  induction tags generalizing skip focus with
  | nil => simp [on?] at found
  | cons first rest ih =>
    have step : ∀ {skip}, (on? kind skip rest).map (under first) = some focus →
        focus.replaceBy [focus.tag] = first :: rest := by
      intro skip found
      obtain ⟨below, deeper, rfl⟩ := Option.map_eq_some_iff.mp found
      simpa [replaceBy, under] using ih deeper
    unfold on? at found
    split at found
    · split at found
      · cases found
        rfl
      · exact step found
    · exact step found

theorem kind_of_on? {kind : HeaderKind} {skip : Nat} {tags : List HeaderTag} {focus : Focus}
    (found : on? kind skip tags = some focus) : focus.tag.kind = kind := by
  induction tags generalizing skip focus with
  | nil => simp [on?] at found
  | cons first rest ih =>
    have step : ∀ {skip}, (on? kind skip rest).map (under first) = some focus →
        focus.tag.kind = kind := by
      intro skip found
      obtain ⟨below, deeper, rfl⟩ := Option.map_eq_some_iff.mp found
      exact (ih deeper : below.tag.kind = kind)
    unfold on? at found
    split at found
    next same =>
      split at found
      · cases found
        exact same
      · exact step found
    · exact step found

/-- As many tags of the kind are left outside as were skipped. -/
theorem countP_of_on? {kind : HeaderKind} {skip : Nat} {tags : List HeaderTag} {focus : Focus}
    (found : on? kind skip tags = some focus) :
    focus.outer.countP (fun tag => tag.kind = kind) = skip := by
  induction tags generalizing skip focus with
  | nil => simp [on?] at found
  | cons first rest ih =>
    unfold on? at found
    split at found
    next same =>
      split at found
      · cases found
        rfl
      · obtain ⟨below, deeper, rfl⟩ := Option.map_eq_some_iff.mp found
        simp [under, same, ih deeper]
    next other =>
      obtain ⟨below, deeper, rfl⟩ := Option.map_eq_some_iff.mp found
      simp [under, other, ih deeper]

theorem on?_append {kind : HeaderKind} {tag : HeaderTag} (outer inner : List HeaderTag)
    (same : tag.kind = kind) :
    on? kind (outer.countP fun tag => tag.kind = kind) (outer ++ tag :: inner) =
      some ⟨outer, tag, inner⟩ := by
  induction outer with
  | nil => simp [on?, same]
  | cons first outer ih =>
    by_cases counted : first.kind = kind
    · simp [on?, counted, ih, under]
    · simp [on?, counted, ih, under]

theorem on?_eq_none_iff {kind : HeaderKind} {skip : Nat} {tags : List HeaderTag} :
    on? kind skip tags = none ↔ tags.countP (fun tag => tag.kind = kind) ≤ skip := by
  induction tags generalizing skip with
  | nil => simp [on?]
  | cons first rest ih =>
    by_cases counted : first.kind = kind
    · cases skip with
      | zero => simp [on?, counted]
      | succ skip => simp [on?, counted, ih]
    · simp [on?, counted, ih]

end Focus

/-- What takes the place of a tag that was found. -/
inductive Edit where
  | replace (tag : HeaderTag)
  | delete
  | insertAfter (first second : HeaderTag)
deriving DecidableEq, Repr

def Edit.tags : Edit → List HeaderTag
  | .replace tag => [tag]
  | .delete => []
  | .insertAfter first second => [first, second]

structure HeaderStack where
  tags : List HeaderTag
deriving DecidableEq, Repr, Inhabited

namespace HeaderStack

def empty : HeaderStack := ⟨[]⟩

def size (stack : HeaderStack) : Nat := stack.tags.length

def isEmpty (stack : HeaderStack) : Bool := stack.tags.isEmpty

def kinds (stack : HeaderStack) : List HeaderKind := stack.tags.map HeaderTag.kind

/-- Every time to live in the stack, outermost first, with each label on its own. -/
def ttls (stack : HeaderStack) : List UInt8 := stack.tags.flatMap HeaderTag.ttls

def text (stack : HeaderStack) : String := " | ".intercalate (stack.tags.map HeaderTag.text)

/-- The tag of a kind after `skip` earlier ones, with its position. -/
def findNth (stack : HeaderStack) (kind : HeaderKind) (skip : Nat) : Option (Nat × HeaderTag) :=
  (Focus.on? kind skip stack.tags).map fun focus => (focus.outer.length, focus.tag)

def find (stack : HeaderStack) (kind : HeaderKind) : Option (Nat × HeaderTag) :=
  stack.findNth kind 0

def contains (stack : HeaderStack) (kind : HeaderKind) : Bool :=
  stack.tags.any fun tag => tag.kind = kind

/-- Let `edit` decide what takes the place of the tag that `findNth` finds. -/
def editNthM {m : Type → Type} [Monad m] (stack : HeaderStack) (kind : HeaderKind) (skip : Nat)
    (edit : HeaderTag → m Edit) : m HeaderStack :=
  match Focus.on? kind skip stack.tags with
  | none => pure stack
  | some focus => do
    let outcome ← edit focus.tag
    pure ⟨focus.replaceBy outcome.tags⟩

def editFirstM {m : Type → Type} [Monad m] (stack : HeaderStack) (kind : HeaderKind)
    (edit : HeaderTag → m Edit) : m HeaderStack :=
  stack.editNthM kind 0 edit

def editNth (stack : HeaderStack) (kind : HeaderKind) (skip : Nat) (edit : HeaderTag → Edit) :
    HeaderStack :=
  Id.run (stack.editNthM kind skip fun tag => pure (edit tag))

def editFirst (stack : HeaderStack) (kind : HeaderKind) (edit : HeaderTag → Edit) : HeaderStack :=
  stack.editNth kind 0 edit

/-- Change the first tag of a kind, or report that there is none. -/
def modifyFirst? (stack : HeaderStack) (kind : HeaderKind) (change : HeaderTag → HeaderTag) :
    Option HeaderStack :=
  (go stack.tags).map HeaderStack.mk
where
  go : List HeaderTag → Option (List HeaderTag)
    | [] => none
    | tag :: rest => if tag.kind = kind then some (change tag :: rest) else (go rest).map (tag :: ·)

theorem mem_of_findNth {stack : HeaderStack} {kind : HeaderKind} {skip position : Nat}
    {tag : HeaderTag} (found : stack.findNth kind skip = some (position, tag)) :
    tag ∈ stack.tags := by
  obtain ⟨focus, seen, same⟩ := Option.map_eq_some_iff.mp found
  cases same
  rw [← Focus.replaceBy_of_on? seen]
  simp [Focus.replaceBy]

/-! ### The first tag of a kind -/

variable {kind : HeaderKind} {tag : HeaderTag} {outer inner : List HeaderTag}

theorem contains_iff {stack : HeaderStack} : stack.contains kind = true ↔ kind ∈ stack.kinds := by
  simp [contains, kinds]

theorem countP_eq_zero_iff {tags : List HeaderTag} :
    tags.countP (fun tag => tag.kind = kind) = 0 ↔ kind ∉ tags.map HeaderTag.kind := by
  simp [List.countP_eq_zero]

/-- A stack has no tag of a kind, or a first one. -/
theorem lacks_or_first (stack : HeaderStack) (kind : HeaderKind) :
    kind ∉ stack.kinds ∨ ∃ outer tag inner, stack = ⟨outer ++ tag :: inner⟩ ∧ tag.kind = kind ∧
      kind ∉ outer.map HeaderTag.kind := by
  obtain ⟨tags⟩ := stack
  cases found : Focus.on? kind 0 tags with
  | none => exact .inl (countP_eq_zero_iff.mp (Nat.le_zero.mp (Focus.on?_eq_none_iff.mp found)))
  | some focus =>
    have split : tags = focus.outer ++ focus.tag :: focus.inner := by
      simpa [Focus.replaceBy] using (Focus.replaceBy_of_on? found).symm
    exact .inr ⟨focus.outer, focus.tag, focus.inner, congrArg mk split, Focus.kind_of_on? found,
      countP_eq_zero_iff.mp (Focus.countP_of_on? found)⟩

/-- What only tags of a kind show is not to be seen in a stack without them. -/
theorem filterMap_of_lacks {α : Type} {view : HeaderTag → Option α} {tags : List HeaderTag}
    (others : ∀ tag, tag.kind ≠ kind → view tag = none) (lacks : kind ∉ tags.map HeaderTag.kind) :
    tags.filterMap view = [] := by
  refine List.filterMap_eq_nil_iff.mpr fun tag inside => others tag fun same => ?_
  exact lacks (List.mem_map.mpr ⟨tag, inside, same⟩)

theorem on?_first (first : kind ∉ outer.map HeaderTag.kind) (same : tag.kind = kind) :
    Focus.on? kind 0 (outer ++ tag :: inner) = some ⟨outer, tag, inner⟩ := by
  rw [← countP_eq_zero_iff.mpr first]
  exact Focus.on?_append outer inner same

theorem on?_of_lacks {stack : HeaderStack} (lacks : kind ∉ stack.kinds) (skip : Nat) :
    Focus.on? kind skip stack.tags = none := by
  have none : stack.tags.countP (fun tag => tag.kind = kind) = 0 := countP_eq_zero_iff.mpr lacks
  exact Focus.on?_eq_none_iff.mpr (none ▸ Nat.zero_le skip)

theorem editFirst_first (first : kind ∉ outer.map HeaderTag.kind) (same : tag.kind = kind)
    (edit : HeaderTag → Edit) :
    editFirst ⟨outer ++ tag :: inner⟩ kind edit = ⟨outer ++ (edit tag).tags ++ inner⟩ := by
  rw [editFirst, editNth, editNthM, on?_first first same]
  rfl

theorem replace_first (first : kind ∉ outer.map HeaderTag.kind) (same : tag.kind = kind)
    (change : HeaderTag → HeaderTag) :
    editFirst ⟨outer ++ tag :: inner⟩ kind (fun tag => .replace (change tag)) =
      ⟨outer ++ change tag :: inner⟩ := by
  rw [editFirst_first first same]
  simp [Edit.tags]

theorem editFirst_of_lacks {stack : HeaderStack} (lacks : kind ∉ stack.kinds)
    (edit : HeaderTag → Edit) : stack.editFirst kind edit = stack := by
  rw [editFirst, editNth, editNthM, on?_of_lacks lacks]
  rfl

/-- An edit is only asked about tags of the kind. -/
theorem editFirst_congr {stack : HeaderStack} {edit other : HeaderTag → Edit}
    (agree : ∀ tag, tag.kind = kind → edit tag = other tag) :
    stack.editFirst kind edit = stack.editFirst kind other := by
  rcases stack.lacks_or_first kind with lacks | ⟨outer, tag, inner, rfl, same, first⟩
  · rw [editFirst_of_lacks lacks, editFirst_of_lacks lacks]
  · rw [editFirst_first first same, editFirst_first first same, agree tag same]

/-- A tag that stays of its kind stays the first. -/
theorem editFirst_replace {stack : HeaderStack} {change : HeaderTag → HeaderTag}
    (keeps : ∀ tag, (change tag).kind = tag.kind) (edit : HeaderTag → Edit) :
    (stack.editFirst kind fun tag => .replace (change tag)).editFirst kind edit =
      stack.editFirst kind fun tag => edit (change tag) := by
  rcases stack.lacks_or_first kind with lacks | ⟨outer, tag, inner, rfl, same, first⟩
  · rw [editFirst_of_lacks lacks, editFirst_of_lacks lacks, editFirst_of_lacks lacks]
  · have still : (change tag).kind = kind := (keeps tag).trans same
    rw [replace_first first same, editFirst_first first still, editFirst_first first same]

/-- Replacing a tag by one with the same image leaves the images of the stack alone. -/
theorem map_editNth_replace {α : Type} {image : HeaderTag → α} {change : HeaderTag → HeaderTag}
    (keeps : ∀ tag, image (change tag) = image tag) (stack : HeaderStack) (kind : HeaderKind)
    (skip : Nat) :
    (stack.editNth kind skip fun tag => .replace (change tag)).tags.map image =
      stack.tags.map image := by
  unfold editNth editNthM
  cases found : Focus.on? kind skip stack.tags with
  | none => rfl
  | some focus =>
    have split := Focus.replaceBy_of_on? found
    simp only [← split]
    simp [Focus.replaceBy, Edit.tags, keeps]

theorem kinds_editNth_replace {change : HeaderTag → HeaderTag}
    (keeps : ∀ tag, (change tag).kind = tag.kind) (stack : HeaderStack) (kind : HeaderKind)
    (skip : Nat) :
    (stack.editNth kind skip fun tag => .replace (change tag)).kinds = stack.kinds :=
  map_editNth_replace keeps stack kind skip

theorem go_modifyFirst? (kind : HeaderKind) (change : HeaderTag → HeaderTag)
    (tags : List HeaderTag) :
    modifyFirst?.go kind change tags =
      (Focus.on? kind 0 tags).map fun focus => focus.replaceBy [change focus.tag] := by
  induction tags with
  | nil => rfl
  | cons first rest ih =>
    by_cases found : first.kind = kind
    · simp [modifyFirst?.go, Focus.on?, found, Focus.replaceBy]
    · simp [modifyFirst?.go, Focus.on?, found, Focus.replaceBy, ih, Function.comp_def, Focus.under]

/-- Changing a tag in place is replacing it. -/
theorem getD_modifyFirst? (stack : HeaderStack) (kind : HeaderKind)
    (change : HeaderTag → HeaderTag) :
    (stack.modifyFirst? kind change).getD stack =
      stack.editFirst kind fun tag => .replace (change tag) := by
  rw [modifyFirst?, go_modifyFirst?, editFirst, editNth, editNthM]
  cases Focus.on? kind 0 stack.tags <;> rfl

end HeaderStack

end OpenFlow
