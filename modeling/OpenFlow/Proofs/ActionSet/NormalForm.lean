import Mathlib.Data.List.Sort
import OpenFlow.Proofs.Document.RoundTrip

/-!
# Lists of actions and action sets

An action set made from a list holds the last action of the list in every slot. Its own list
is therefore a normal form of the lists that make the same set, and so is its document.
-/
namespace OpenFlow

namespace ActionSet

/-- The actions of the list in a slot, in their order. -/
def inSlot (slot : ActionSlot) (actions : List Action) : List Action :=
  actions.filter fun action => action.slot = slot

def lastIn (slot : ActionSlot) (actions : List Action) : Option Action :=
  (inSlot slot actions).getLast?

/-- What is left of a list when each slot keeps its last action and the slots are put in order. -/
structure IsNormalForm (actions normal : List Action) : Prop where
  sorted : normal.Pairwise fun a b => a.slot < b.slot
  mem_iff : ∀ action, action ∈ normal ↔ lastIn action.slot actions = some action

variable {actions normal : List Action} {set other : ActionSet} {slot : ActionSlot}
  {action : Action}

theorem lastIn_append (front rest : List Action) (slot : ActionSlot) :
    lastIn slot (front ++ rest) = (lastIn slot rest).or (lastIn slot front) := by
  rw [lastIn, inSlot, List.filter_append, List.getLast?_append]
  rfl

theorem lastIn_singleton (action : Action) (slot : ActionSlot) :
    lastIn slot [action] = if action.slot = slot then some action else none := by
  by_cases here : action.slot = slot <;> simp [lastIn, inSlot, here]

theorem mem_of_lastIn (last : lastIn slot actions = some action) :
    action ∈ actions ∧ action.slot = slot := by
  simpa using List.mem_filter.mp (List.mem_of_getLast? last)

theorem exists_lastIn (member : action ∈ actions) :
    ∃ last, lastIn action.slot actions = some last := by
  have kept : action ∈ inSlot action.slot actions := List.mem_filter.mpr ⟨member, by simp⟩
  exact ⟨_, List.getLast?_eq_some_getLast (List.ne_nil_of_mem kept)⟩

/-- A slot that the list mentions holds the last action of the list in it afterwards. -/
theorem get?_insertAll (set : ActionSet) (actions : List Action) (slot : ActionSlot) :
    (set.insertAll actions).get? slot = (lastIn slot actions).or (set.get? slot) := by
  induction actions generalizing set with
  | nil => rfl
  | cons head rest ih =>
    -- Writing the head first, an action of the rest in the same slot comes out on top of it.
    calc ((set.insert head).insertAll rest).get? slot
      _ = (lastIn slot rest).or ((set.insert head).get? slot) := ih (set.insert head)
      _ = (lastIn slot rest).or ((lastIn slot [head]).or (set.get? slot)) := by
        rw [get?_insert, lastIn_singleton]
        split <;> rfl
      _ = (lastIn slot ([head] ++ rest)).or (set.get? slot) := by
        rw [lastIn_append, Option.or_assoc]

theorem get?_ofList (actions : List Action) (slot : ActionSlot) :
    (ofList actions).get? slot = lastIn slot actions := by
  rw [ofList, get?_insertAll]
  exact Option.or_none

/-- Lists that are sorted by slot and have the same members are equal. -/
theorem eq_of_sorted {xs ys : List Action} (sortedX : xs.Pairwise fun a b => a.slot < b.slot)
    (sortedY : ys.Pairwise fun a b => a.slot < b.slot) (same : ∀ a, a ∈ xs ↔ a ∈ ys) :
    xs = ys := by
  -- Actions that share a slot are not in order, so neither list has two of them.
  have irreflexive : Std.Irrefl fun a b : Action => a.slot < b.slot :=
    ⟨fun _ before => ActionSlot.ne_of_lt before rfl⟩
  have antisymmetric : Std.Antisymm fun a b : Action => a.slot < b.slot :=
    ⟨fun _ _ before after => absurd rfl (ActionSlot.ne_of_lt (ActionSlot.lt_trans before after))⟩
  exact sortedX.eq_of_mem_iff sortedY same

theorem ext_get? (same : ∀ slot, set.get? slot = other.get? slot) : set = other := by
  refine ActionSet.ext (eq_of_sorted set.sorted other.sorted fun action => ?_)
  rw [mem_toList_iff, mem_toList_iff, same]

theorem ofList_eq_iff {v w : List Action} :
    ofList v = ofList w ↔ ∀ slot, lastIn slot v = lastIn slot w := by
  constructor
  · intro same slot
    rw [← get?_ofList, same, get?_ofList]
  · intro same
    refine ext_get? fun slot => ?_
    rw [get?_ofList, get?_ofList, same slot]

theorem isNormalForm_ofList (actions : List Action) :
    IsNormalForm actions (ofList actions).toList where
  sorted := (ofList actions).sorted
  mem_iff action := by rw [mem_toList_iff, get?_ofList]

/-- A list has one normal form. -/
theorem isNormalForm_iff : IsNormalForm actions normal ↔ normal = (ofList actions).toList := by
  constructor
  · intro normalizes
    have made := isNormalForm_ofList actions
    refine eq_of_sorted normalizes.sorted made.sorted fun action => ?_
    rw [normalizes.mem_iff, made.mem_iff]
  · rintro rfl
    exact isNormalForm_ofList actions

/-- Each slot of a set has one action, which is then the last one. -/
theorem isNormalForm_toList (set : ActionSet) : IsNormalForm set.toList set.toList where
  sorted := set.sorted
  mem_iff action := by
    constructor
    · intro member
      -- The last action of the slot is in the set as well, and the slot holds only one.
      obtain ⟨last, found⟩ := exists_lastIn member
      obtain ⟨inside, here⟩ := mem_of_lastIn found
      have heldLast := mem_toList_iff.mp inside
      rw [here, mem_toList_iff.mp member] at heldLast
      rw [found, heldLast]
    · exact fun last => (mem_of_lastIn last).1

theorem ofList_toList (set : ActionSet) : ofList set.toList = set :=
  ActionSet.ext (isNormalForm_iff.mp set.isNormalForm_toList).symm

instance : LawfulSerial ActionSet where
  decode_encode set := by
    have read : decode (encode set) = Except.ok (ofList set.toList) :=
      map_decode_encode ofList set.toList
    rw [read, ofList_toList]

/-- Going from a list to a set and back puts the list into normal form; a set comes back from its
list and from its document. Two lists make the same set exactly when their last actions are the
same in every slot, whatever else is in them and however the slots are mixed. -/
theorem ofList_normalizes (v w normal : List Action) (set : ActionSet) (document : Document) :
    (normal = (ofList v).toList ↔ IsNormalForm v normal) ∧
    ofList set.toList = set ∧
    (ofList v = ofList w ↔ ∀ slot, lastIn slot v = lastIn slot w) ∧
    ((∀ slot, inSlot slot v = inSlot slot w) → ofList v = ofList w) ∧
    encode set = encode set.toList ∧
    decode (encode set) = .ok set ∧
    decode (encode v) = .ok (ofList v) ∧
    (decode document : Except DocumentError ActionSet).map encode =
      (decode document).map fun actions => encode (ofList actions).toList := by
  refine ⟨isNormalForm_iff.symm, ofList_toList set, ofList_eq_iff, fun same => ?_, rfl,
    LawfulSerial.decode_encode set, ?_, ?_⟩
  · exact ofList_eq_iff.mpr fun slot => congrArg List.getLast? (same slot)
  · exact map_decode_encode ofList v
  · rw [decode_eq]
    cases (decode document : Except DocumentError (List Action)) <;> rfl

/-- An output that is moved to the front, past a queue, is still the first of two outputs. -/
theorem ofList_normalizes_output_moved :
    ofList [.setQueue 3, .output .inPort, .output .flood] =
      ofList [.output .inPort, .setQueue 3, .output .flood] :=
  (ofList_normalizes _ _ [] .empty .null).2.2.2.1 fun slot => by cases slot <;> rfl

end ActionSet

end OpenFlow
