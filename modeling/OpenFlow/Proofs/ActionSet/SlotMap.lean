import Mathlib.Data.Finmap
import OpenFlow.Document.Action

/-!
# Action sets as maps

Under any sequence of operations an action set answers what a finite map from slots to
actions answers, where a write stores an action under its own slot. The set lists the
actions of the map in the order of their slots.
-/
namespace OpenFlow

/-- A finite map from slots to the actions they hold. -/
abbrev SlotMap : Type := Finmap fun _ : ActionSlot => Action

namespace ActionSet

/-- What can be done with an action set. All actions of a list can be written into the set, or
into the empty set that takes its place; a document that is read takes its place as well. -/
inductive Operation where
  | write (action : Action)
  | insertAll (actions : List Action)
  | clear
  | remove (slot : ActionSlot)
  | get (slot : ActionSlot)
  | popFirst
  | ofList (actions : List Action)
  | decode (document : Document)

/-- The action an operation gives back, and the set after it. A document that is refused leaves
the set as it is. -/
def perform (set : ActionSet) : Operation → Option Action × ActionSet
  | .write action => set.write action
  | .insertAll actions => (none, set.insertAll actions)
  | .clear => (none, .empty)
  | .remove slot => set.remove slot
  | .get slot => (set.get? slot, set)
  | .popFirst =>
    match set.popFirst? with
    | some (first, rest) => (some first, rest)
    | none => (none, set)
  | .ofList actions => (none, .ofList actions)
  | .decode document =>
    match decode document with
    | .ok read => (none, read)
    | .error _ => (none, set)

/-- What the operations give back, in order, and the set after them. -/
def performAll (set : ActionSet) : List Operation → List (Option Action) × ActionSet
  | [] => ([], set)
  | operation :: rest =>
    let (answer, next) := set.perform operation
    let (answers, last) := next.performAll rest
    (answer :: answers, last)

end ActionSet

namespace SlotMap

/-- An action goes under its own slot, in place of the one that was there. -/
def store (map : SlotMap) (action : Action) : SlotMap := map.insert action.slot action

/-- What an operation does to the map, and the action it gives back. -/
inductive Performs : SlotMap → ActionSet.Operation → Option Action → SlotMap → Prop
  | write (map action) : Performs map (.write action) (map.lookup action.slot) (map.store action)
  | insertAll (map actions) : Performs map (.insertAll actions) none (actions.foldl store map)
  | clear (map) : Performs map .clear none ∅
  | remove (map slot) : Performs map (.remove slot) (map.lookup slot) (map.erase slot)
  | get (map slot) : Performs map (.get slot) (map.lookup slot) map
  | popEmpty : Performs ∅ .popFirst none ∅
  | popFirst {map slot action} (held : map.lookup slot = some action)
      (least : ∀ other ∈ map, other = slot ∨ slot < other) :
      Performs map .popFirst (some action) (map.erase slot)
  | ofList (map actions) : Performs map (.ofList actions) none (actions.foldl store ∅)
  | decode (map) {document} {actions : List Action} (read : decode document = .ok actions) :
      Performs map (.decode document) none (actions.foldl store ∅)
  | refuse (map) {document} {error}
      (refused : (OpenFlow.decode document : Except DocumentError (List Action)) = .error error) :
      Performs map (.decode document) none map

inductive PerformsAll :
    SlotMap → List ActionSet.Operation → List (Option Action) → SlotMap → Prop
  | nil (map) : PerformsAll map [] [] map
  | cons {map next last operation rest answer answers} (first : Performs map operation answer next)
      (later : PerformsAll next rest answers last) :
      PerformsAll map (operation :: rest) (answer :: answers) last

end SlotMap

namespace ActionSet

/-- The set lists the actions of the map, each under its own slot, in the order of the slots. -/
structure Represents (set : ActionSet) (map : SlotMap) : Prop where
  get? : ∀ slot, set.get? slot = map.lookup slot
  keyed : ∀ slot action, map.lookup slot = some action → action.slot = slot
  mem_iff : ∀ action, action ∈ set.toList ↔ map.lookup action.slot = some action
  ordered : set.toList.Pairwise fun a b => a.slot.stage < b.slot.stage ∨
    a.slot.stage = b.slot.stage ∧ a.slot.detail < b.slot.detail
  size : set.size = map.keys.card
  isEmpty : set.isEmpty = true ↔ map = ∅

/-- The set and the map hold the same action in every slot. -/
def Agrees (set : ActionSet) (map : SlotMap) : Prop := ∀ slot, set.get? slot = map.lookup slot

variable {set rest : ActionSet} {map : SlotMap} {first : Action}

/-! ### What agreement with a map says of a set -/

theorem Agrees.mem_iff (same : set.Agrees map) {slot : ActionSlot} :
    slot ∈ map ↔ slot ∈ set.slots := by
  rw [Finmap.mem_iff, slots, List.mem_map]
  constructor
  · rintro ⟨action, held⟩
    rw [← same slot] at held
    have here := slot_of_get? held
    exact ⟨action, mem_toList_iff.mpr (here ▸ held), here⟩
  · rintro ⟨action, member, rfl⟩
    exact ⟨action, (same action.slot).symm.trans (mem_toList_iff.mp member)⟩

theorem nodup_slots (set : ActionSet) : set.slots.Nodup :=
  List.pairwise_map.mpr (set.sorted.imp ActionSlot.ne_of_lt)

theorem Agrees.card_keys (same : set.Agrees map) : map.keys.card = set.size := by
  have keys : map.keys = set.slots.toFinset := by
    ext slot
    rw [Finmap.mem_keys, same.mem_iff, List.mem_toFinset]
  -- No slot occurs twice in the set, so the length of its list is the number of keys.
  rw [keys, List.toFinset_card_of_nodup set.nodup_slots, slots, List.length_map, size]

theorem Agrees.eq_empty_iff (same : set.Agrees map) : map = ∅ ↔ set.toList = [] := by
  constructor
  · rintro rfl
    refine List.eq_nil_iff_forall_not_mem.mpr fun action member => ?_
    have held := (same action.slot).symm.trans (mem_toList_iff.mp member)
    rw [Finmap.lookup_empty] at held
    cases held
  · intro bare
    refine Finmap.ext_lookup fun slot => ?_
    rw [← same slot, get?, bare]
    rfl

theorem Agrees.represents (same : set.Agrees map) : set.Represents map where
  get? := same
  keyed slot action held := slot_of_get? ((same slot).trans held)
  mem_iff action := by rw [mem_toList_iff, same action.slot]
  ordered := set.sorted.imp ActionSlot.lt_iff.mp
  size := same.card_keys.symm
  isEmpty := by rw [same.eq_empty_iff, isEmpty, List.isEmpty_iff]

/-! ### Operations keep agreement -/

theorem agrees_empty : Agrees .empty ∅ := by
  intro slot
  rw [Finmap.lookup_empty]
  rfl

theorem Agrees.insert (same : set.Agrees map) (action : Action) :
    (set.insert action).Agrees (map.store action) := by
  intro slot
  rw [get?_insert, SlotMap.store]
  split
  next here => rw [← here, Finmap.lookup_insert]
  next elsewhere => rw [Finmap.lookup_insert_of_ne _ (Ne.symm elsewhere), same slot]

theorem Agrees.insertAll (same : set.Agrees map) (actions : List Action) :
    (set.insertAll actions).Agrees (actions.foldl SlotMap.store map) := by
  induction actions generalizing set map with
  | nil => exact same
  | cons action rest ih => exact ih (same.insert action)

theorem Agrees.erase (same : set.Agrees map) (erased : ActionSlot) :
    (set.erase erased).Agrees (map.erase erased) := by
  intro slot
  rw [get?_erase]
  split
  next here => rw [here, Finmap.lookup_erase]
  next elsewhere => rw [Finmap.lookup_erase_ne elsewhere, same slot]

/-- The first action of the set is the one of the least slot that the map holds. -/
theorem Agrees.popFirst (same : set.Agrees map) (popped : set.popFirst? = some (first, rest)) :
    SlotMap.Performs map .popFirst (some first) (map.erase first.slot) := by
  have split := toList_of_popFirst? popped
  have before := (List.pairwise_cons.mp (split ▸ set.sorted)).1
  refine .popFirst ?_ fun other occupied => ?_
  · rw [← same first.slot, ← mem_toList_iff, split]
    exact List.mem_cons_self
  · rw [same.mem_iff, slots, split, List.map_cons, List.mem_cons, List.mem_map] at occupied
    rcases occupied with rfl | ⟨action, member, rfl⟩
    · exact .inl rfl
    · exact .inr (before action member)

/-- An operation does to the map what it does to the set, and gives back the same. -/
theorem Agrees.perform (same : set.Agrees map) (operation : Operation) :
    ∃ next, map.Performs operation (set.perform operation).1 next ∧
      (set.perform operation).2.Agrees next := by
  cases operation with
  | write action =>
    have step := SlotMap.Performs.write map action
    rw [← same action.slot] at step
    exact ⟨_, step, same.insert action⟩
  | insertAll actions => exact ⟨_, .insertAll map actions, same.insertAll actions⟩
  | clear => exact ⟨_, .clear map, agrees_empty⟩
  | remove slot =>
    have step := SlotMap.Performs.remove map slot
    rw [← same slot] at step
    exact ⟨_, step, same.erase slot⟩
  | get slot =>
    have step := SlotMap.Performs.get map slot
    rw [← same slot] at step
    exact ⟨_, step, same⟩
  | popFirst =>
    cases popped : set.popFirst? with
    | none =>
      -- There is no first action only in an empty set, so the map is empty too.
      obtain rfl := same.eq_empty_iff.mpr (toList_of_popFirst?_eq_none popped)
      simp only [ActionSet.perform, popped]
      exact ⟨∅, .popEmpty, same⟩
    | some taken =>
      obtain ⟨first, rest⟩ := taken
      simp only [ActionSet.perform, popped]
      refine ⟨_, same.popFirst popped, ?_⟩
      rw [eq_erase_of_popFirst? popped]
      exact same.erase first.slot
  | ofList actions => exact ⟨_, .ofList map actions, agrees_empty.insertAll actions⟩
  | decode document =>
    cases read : (decode document : Except DocumentError (List Action)) with
    | ok actions =>
      simp only [ActionSet.perform, decode_eq, read, Except.map]
      exact ⟨_, .decode map read, agrees_empty.insertAll actions⟩
    | error error =>
      simp only [ActionSet.perform, decode_eq, read, Except.map]
      exact ⟨_, .refuse map read, same⟩

theorem Agrees.performAll (same : set.Agrees map) (operations : List Operation) :
    ∃ last, map.PerformsAll operations (set.performAll operations).1 last ∧
      (set.performAll operations).2.Agrees last := by
  induction operations generalizing set map with
  | nil => exact ⟨map, .nil map, same⟩
  | cons operation rest ih =>
    -- Agreement is all that the rest of the operations needs of the first.
    obtain ⟨next, first, agrees⟩ := same.perform operation
    obtain ⟨last, later, ends⟩ := ih agrees
    exact ⟨last, .cons first later, ends⟩

/-- Operations on the empty action set give back what they give back on the empty map, and leave
a set that represents the map they leave. -/
theorem performAll_refines_map (operations : List Operation) :
    let (answers, last) := empty.performAll operations
    ∃ map, SlotMap.PerformsAll ∅ operations answers map ∧ last.Represents map := by
  obtain ⟨map, performed, agrees⟩ := agrees_empty.performAll operations
  exact ⟨map, performed, agrees.represents⟩

end ActionSet

end OpenFlow
