import OpenFlow.Action.Slot

/-!
# Action sets

The actions deferred to the end of the pipeline, at most one for each slot. The
set keeps them strictly sorted by slot, so it is equal to another set exactly
when both hold the same actions. A later write to a slot replaces the earlier.
-/
namespace OpenFlow

@[ext]
structure ActionSet where
  toList : List Action
  sorted : toList.Pairwise fun a b => a.slot < b.slot
deriving DecidableEq, Repr

namespace ActionSet

def empty : ActionSet := ⟨[], .nil⟩

instance : Inhabited ActionSet := ⟨empty⟩

def size (set : ActionSet) : Nat := set.toList.length

def isEmpty (set : ActionSet) : Bool := set.toList.isEmpty

def slots (set : ActionSet) : List ActionSlot := set.toList.map Action.slot

def get? (set : ActionSet) (slot : ActionSlot) : Option Action :=
  set.toList.find? fun action => action.slot = slot

/-- Insert into a sorted list, replacing the action in the same slot. -/
def place (action : Action) : List Action → List Action
  | [] => [action]
  | head :: rest =>
    if action.slot < head.slot then action :: head :: rest
    else if action.slot = head.slot then action :: rest
    else head :: place action rest

theorem mem_of_mem_place {action other : Action} {actions : List Action}
    (member : other ∈ place action actions) : other = action ∨ other ∈ actions := by
  induction actions with
  | nil => simpa [place] using member
  | cons head rest ih =>
    unfold place at member
    split at member
    · simpa using member
    · split at member
      · simp only [List.mem_cons] at member ⊢
        exact member.imp_right .inr
      · simp only [List.mem_cons] at member ⊢
        rcases member with same | inside
        · exact .inr (.inl same)
        · exact (ih inside).imp_right .inr

theorem sorted_place {actions : List Action} (action : Action)
    (sorted : actions.Pairwise fun a b => a.slot < b.slot) :
    (place action actions).Pairwise fun a b => a.slot < b.slot := by
  induction actions with
  | nil => simp [place]
  | cons head rest ih =>
    have ⟨before, sortedRest⟩ := List.pairwise_cons.mp sorted
    unfold place
    split
    next first =>
      refine List.pairwise_cons.mpr ⟨fun other member => ?_, sorted⟩
      rcases List.mem_cons.mp member with rfl | inside
      · exact first
      · exact ActionSlot.lt_trans first (before other inside)
    next notFirst =>
      split
      next same =>
        exact List.pairwise_cons.mpr ⟨fun other member => same ▸ before other member, sortedRest⟩
      next distinct =>
        refine List.pairwise_cons.mpr ⟨fun other member => ?_, ih sortedRest⟩
        rcases mem_of_mem_place member with rfl | inside
        · exact ActionSlot.lt_of_not_lt_of_ne notFirst distinct
        · exact before other inside

/-- An action is placed after all actions of earlier slots. -/
theorem place_append {action : Action} {front rest : List Action}
    (earlier : ∀ other ∈ front, other.slot < action.slot) :
    place action (front ++ rest) = front ++ place action rest := by
  induction front with
  | nil => rfl
  | cons head front ih =>
    have first := earlier head List.mem_cons_self
    have notBefore : ¬ action.slot < head.slot := fun before =>
      ActionSlot.ne_of_lt (ActionSlot.lt_trans first before) rfl
    have later := ih fun other member => earlier other (List.mem_cons_of_mem head member)
    rw [List.cons_append, place, if_neg notBefore, if_neg (ActionSlot.ne_of_lt first).symm, later,
      List.cons_append]

/-- What is placed in a slot is found there, and all other slots are left alone. -/
theorem find?_place (action : Action) (actions : List Action) (slot : ActionSlot) :
    (place action actions).find? (fun other => other.slot = slot) =
      if action.slot = slot then some action
      else actions.find? fun other => other.slot = slot := by
  induction actions with
  | nil => simp [place]
  | cons head rest ih =>
    unfold place
    split
    · by_cases here : action.slot = slot <;> simp [here]
    · split
      next same => by_cases here : action.slot = slot <;> simp [here, ← same]
      next distinct =>
        by_cases here : head.slot = slot
        · have elsewhere : action.slot ≠ slot := fun same => distinct (same.trans here.symm)
          simp [here, elsewhere]
        · simp [here, ih]

theorem slot_of_get? {set : ActionSet} {slot : ActionSlot} {action : Action}
    (held : set.get? slot = some action) : action.slot = slot := by
  simpa using List.find?_some held

/-- An action in the set is the one its slot holds. -/
theorem mem_toList_iff {set : ActionSet} {action : Action} :
    action ∈ set.toList ↔ set.get? action.slot = some action := by
  obtain ⟨actions, sorted⟩ := set
  refine ⟨fun member => ?_, List.mem_of_find?_eq_some⟩
  change actions.find? (fun other => other.slot = action.slot) = some action
  induction actions with
  | nil => cases member
  | cons head rest ih =>
    obtain ⟨before, sortedRest⟩ := List.pairwise_cons.mp sorted
    rcases List.mem_cons.mp member with rfl | inside
    · simp
    · have distinct := ActionSlot.ne_of_lt (before action inside)
      simp [distinct, ih sortedRest inside]

def insert (set : ActionSet) (action : Action) : ActionSet :=
  ⟨place action set.toList, sorted_place action set.sorted⟩

theorem get?_insert (set : ActionSet) (action : Action) (slot : ActionSlot) :
    (set.insert action).get? slot = if action.slot = slot then some action else set.get? slot :=
  find?_place action set.toList slot

/-- Insert an action, with the action it displaces from its slot. -/
def write (set : ActionSet) (action : Action) : Option Action × ActionSet :=
  (set.get? action.slot, set.insert action)

def insertAll (set : ActionSet) (actions : List Action) : ActionSet :=
  actions.foldl insert set

theorem mem_of_mem_insertAll {set : ActionSet} {actions : List Action} {action : Action}
    (member : action ∈ (set.insertAll actions).toList) :
    action ∈ set.toList ∨ action ∈ actions := by
  induction actions generalizing set with
  | nil => exact .inl member
  | cons head rest ih =>
    rcases ih member with placed | later
    · rcases mem_of_mem_place placed with rfl | old
      · exact .inr List.mem_cons_self
      · exact .inl old
    · exact .inr (List.mem_cons_of_mem head later)

def ofList (actions : List Action) : ActionSet := empty.insertAll actions

def erase (set : ActionSet) (slot : ActionSlot) : ActionSet :=
  ⟨set.toList.filter fun action => action.slot ≠ slot, set.sorted.filter _⟩

theorem get?_erase (set : ActionSet) (erased slot : ActionSlot) :
    (set.erase erased).get? slot = if slot = erased then none else set.get? slot := by
  unfold get? erase
  rw [List.find?_filter]
  split
  next same => simp [same]
  next other =>
    -- An action of the slot that is looked up is not erased.
    congr 1
    funext action
    by_cases here : action.slot = slot <;> simp [here, other]

/-- Empty a slot, with the action it held. -/
def remove (set : ActionSet) (slot : ActionSlot) : Option Action × ActionSet :=
  (set.get? slot, set.erase slot)

/-- The action that is applied first, with the set without it. -/
def popFirst? : ActionSet → Option (Action × ActionSet)
  | ⟨[], _⟩ => none
  | ⟨first :: rest, sorted⟩ => some (first, ⟨rest, (List.pairwise_cons.mp sorted).2⟩)

theorem toList_of_popFirst? {set rest : ActionSet} {first : Action}
    (popped : set.popFirst? = some (first, rest)) : set.toList = first :: rest.toList := by
  obtain ⟨actions, sorted⟩ := set
  cases actions <;> cases popped
  rfl

theorem toList_of_popFirst?_eq_none {set : ActionSet} (popped : set.popFirst? = none) :
    set.toList = [] := by
  obtain ⟨actions, sorted⟩ := set
  cases actions with
  | nil => rfl
  | cons first rest => cases popped

/-- Taking the first action out of the set is emptying its slot. -/
theorem eq_erase_of_popFirst? {set rest : ActionSet} {first : Action}
    (popped : set.popFirst? = some (first, rest)) : rest = set.erase first.slot := by
  have split := toList_of_popFirst? popped
  have before := (List.pairwise_cons.mp (split ▸ set.sorted)).1
  apply ActionSet.ext
  change rest.toList = set.toList.filter _
  rw [split, List.filter_cons_of_neg (by simp), List.filter_eq_self.mpr]
  intro other member
  simpa using (ActionSlot.ne_of_lt (before other member)).symm

end ActionSet

end OpenFlow
