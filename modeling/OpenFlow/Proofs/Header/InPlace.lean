import OpenFlow.Proofs.Header.Lookup

/-!
# Edits in place

An edit in place asks a callback about the tag that is found and writes what the callback answers
over that tag. The callback may have a state of its own and may fail. It is asked once, or not at
all when there is no such tag; only the place of the tag changes, and when the callback fails
nothing does.
-/
namespace OpenFlow

variable {σ ε : Type}

/-- What decides on an edit: asked about a tag, it may change its own state and may fail. -/
abbrev Callback (σ ε : Type) : Type := HeaderTag → ExceptT ε (StateM σ) Edit

namespace Callback

/-- The answer to a question, and the state after it. -/
def answer (edit : Callback σ ε) (tag : HeaderTag) (state : σ) : Except ε Edit × σ :=
  (edit tag).run.run state

/-- The same callback, which also keeps a list of the tags that it was asked about. -/
def recorded (edit : Callback σ ε) : Callback (List HeaderTag × σ) ε := fun tag =>
  ExceptT.mk fun (asked, state) =>
    let (outcome, after) := edit.answer tag state
    (outcome, asked ++ [tag], after)

/-- A callback that never fails. -/
def ofTotal (edit : HeaderTag → StateM σ Edit) : Callback σ ε := fun tag => ExceptT.lift (edit tag)

theorem answer_ofTotal (edit : HeaderTag → StateM σ Edit) (tag : HeaderTag) (state : σ) :
    (ofTotal edit : Callback σ ε).answer tag state =
      (.ok ((edit tag).run state).1, ((edit tag).run state).2) := rfl

theorem run_recorded (edit : Callback σ ε) (tag : HeaderTag) (state : σ) :
    (edit.recorded tag).run.run ([], state) =
      ((edit.answer tag state).1, [tag], (edit.answer tag state).2) := rfl

end Callback

/-- What an edit in place leaves behind. -/
structure Edited (σ ε : Type) where
  stack : HeaderStack
  /-- The tags that the callback was asked about, one for each time. -/
  asked : List HeaderTag
  state : σ
  result : Except ε Unit

namespace HeaderStack

/-- Put the stack that `edited` returns in place of this one, which stays if it fails. -/
def inPlace (stack : HeaderStack)
    (edited : Callback (List HeaderTag × σ) ε →
      ExceptT ε (StateM (List HeaderTag × σ)) HeaderStack)
    (edit : Callback σ ε) (state : σ) : Edited σ ε :=
  match (edited edit.recorded).run.run ([], state) with
  | (.ok after, asked, left) => ⟨after, asked, left, .ok ()⟩
  | (.error error, asked, left) => ⟨stack, asked, left, .error error⟩

variable {stack : HeaderStack} {kind : HeaderKind} {skip : Nat} {tag : HeaderTag}
variable {outer inner : List HeaderTag}

/-- What a lookup finds stands between what is before it and the rest. -/
theorem exists_split_of_findNth {position : Nat}
    (found : stack.findNth kind skip = some (position, tag)) :
    ∃ outer inner, stack.tags = outer ++ [tag] ++ inner ∧ outer.length = position := by
  obtain ⟨stands, -, -⟩ := findNth_eq_some_iff.mp found
  obtain ⟨focus, placed, located, rfl⟩ := Focus.exists_focus_iff.mp stands
  exact ⟨focus.outer, focus.inner, placed.symm, located⟩

/-- The place of the tag that is found decides what is before it and what is the rest. -/
theorem on?_of_findNth (split : stack.tags = outer ++ [tag] ++ inner)
    (found : stack.findNth kind skip = some (outer.length, tag)) :
    Focus.on? kind skip stack.tags = some ⟨outer, tag, inner⟩ := by
  obtain ⟨-, same, counted⟩ := findNth_eq_some_iff.mp found
  apply Focus.on?_eq_some_iff.mpr
  refine ⟨split.symm, same, ?_⟩
  rw [kinds, ← List.map_take, count_map_kind, split, List.append_assoc, List.take_left] at counted
  exact counted

theorem on?_of_findNth_none (absent : stack.findNth kind skip = none) :
    Focus.on? kind skip stack.tags = none := Option.map_eq_none_iff.mp absent

theorem inPlace_of_none (absent : stack.findNth kind skip = none) (edit : Callback σ ε)
    (state : σ) :
    stack.inPlace (stack.editNthM kind skip) edit state = ⟨stack, [], state, .ok ()⟩ := by
  rw [inPlace, editNthM, on?_of_findNth_none absent]
  rfl

theorem inPlace_of_found (split : stack.tags = outer ++ [tag] ++ inner)
    (found : stack.findNth kind skip = some (outer.length, tag)) (edit : Callback σ ε)
    (state : σ) :
    stack.inPlace (stack.editNthM kind skip) edit state =
      match edit.answer tag state with
      | (.ok outcome, after) => ⟨⟨outer ++ outcome.tags ++ inner⟩, [tag], after, .ok ()⟩
      | (.error error, after) => ⟨stack, [tag], after, .error error⟩ := by
  rw [inPlace, editNthM, on?_of_findNth split found]
  -- The callback runs first; its answer decides whether the stack is put together again.
  simp only [ExceptT.run_bind, StateT.run_bind, Callback.run_recorded]
  rcases edit.answer tag state with ⟨outcome | error, after⟩ <;> rfl

/-- The callback is asked about the tag that is found and about no other. -/
theorem asked_inPlace (stack : HeaderStack) (kind : HeaderKind) (skip : Nat)
    (edit : Callback σ ε) (state : σ) :
    (stack.inPlace (stack.editNthM kind skip) edit state).asked =
      ((stack.findNth kind skip).map Prod.snd).toList := by
  cases found : stack.findNth kind skip with
  | none => rw [inPlace_of_none found]; rfl
  | some located =>
    obtain ⟨position, tag⟩ := located
    obtain ⟨outer, inner, split, rfl⟩ := exists_split_of_findNth found
    rw [inPlace_of_found split found]
    rcases edit.answer tag state with ⟨outcome | error, after⟩ <;> rfl

/-- With a callback that never fails, the edit in place is the one that only returns a stack. -/
theorem inPlace_ofTotal (stack : HeaderStack) (kind : HeaderKind) (skip : Nat)
    (edit : HeaderTag → StateM σ Edit) (state : σ) :
    stack.inPlace (stack.editNthM kind skip) (Callback.ofTotal edit : Callback σ ε) state =
      ⟨((stack.editNthM kind skip edit).run state).1,
        ((stack.findNth kind skip).map Prod.snd).toList,
        ((stack.editNthM kind skip edit).run state).2, .ok ()⟩ := by
  cases found : stack.findNth kind skip with
  | none =>
    rw [inPlace_of_none found, editNthM, on?_of_findNth_none found]
    rfl
  | some located =>
    obtain ⟨position, tag⟩ := located
    obtain ⟨outer, inner, split, rfl⟩ := exists_split_of_findNth found
    rw [inPlace_of_found split found, Callback.answer_ofTotal, editNthM,
      on?_of_findNth split found]
    rfl

/-- A callback without a state leaves the state as it is. -/
theorem run_editNthM_pure (stack : HeaderStack) (kind : HeaderKind) (skip : Nat)
    (edit : HeaderTag → Edit) (state : σ) :
    (stack.editNthM kind skip fun tag => (pure (edit tag) : StateM σ Edit)).run state =
      (stack.editNth kind skip edit, state) := by
  rw [editNth, editNthM, editNthM]
  cases Focus.on? kind skip stack.tags <;> rfl

/-- The callback is asked once, about a copy of the tag that is found, or not at all when there is
none, and then the stack stays as it is. The tag found stands between what is before its position
and the rest; a new tag takes its place, or nothing does, or two tags do, and a callback that fails
leaves the stack as it was and its error to the caller. Editing the first tag of a kind skips none,
and an edit by a callback that never fails returns the stack that the edit in place leaves. -/
theorem edit_is_local_and_atomic (stack : HeaderStack) (kind : HeaderKind) (skip : Nat)
    (edit : Callback σ ε) (state : σ) :
    let edited : Edited σ ε := stack.inPlace (stack.editNthM kind skip) edit state
    edited.asked = ((stack.findNth kind skip).map Prod.snd).toList ∧
    (stack.findNth kind skip = none → edited = ⟨stack, [], state, .ok ()⟩) ∧
    (∀ position tag, stack.findNth kind skip = some (position, tag) →
      ∃ outer inner, stack.tags = outer ++ [tag] ++ inner ∧ outer.length = position ∧
        ∀ after,
          (∀ new, edit.answer tag state = (.ok (.replace new), after) →
            edited = ⟨⟨outer ++ [new] ++ inner⟩, [tag], after, .ok ()⟩) ∧
          (edit.answer tag state = (.ok .delete, after) →
            edited = ⟨⟨outer ++ inner⟩, [tag], after, .ok ()⟩) ∧
          (∀ first second, edit.answer tag state = (.ok (.insertAfter first second), after) →
            edited = ⟨⟨outer ++ [first, second] ++ inner⟩, [tag], after, .ok ()⟩) ∧
          ∀ error, edit.answer tag state = (.error error, after) →
            edited = ⟨stack, [tag], after, .error error⟩) ∧
    stack.inPlace (stack.editFirstM kind) edit state =
      stack.inPlace (stack.editNthM kind 0) edit state ∧
    (∀ total : HeaderTag → StateM σ Edit,
      stack.inPlace (stack.editNthM kind skip) (Callback.ofTotal total : Callback σ ε) state =
        ⟨((stack.editNthM kind skip total).run state).1, edited.asked,
          ((stack.editNthM kind skip total).run state).2, .ok ()⟩) ∧
    ∀ total : HeaderTag → Edit,
      stack.inPlace (stack.editNthM kind skip)
          (Callback.ofTotal fun tag => pure (total tag) : Callback σ ε) state =
        ⟨stack.editNth kind skip total, edited.asked, state, .ok ()⟩ := by
  intro edited
  have asked := asked_inPlace stack kind skip edit state
  refine ⟨asked, fun absent => inPlace_of_none absent edit state, fun position tag found => ?_, rfl,
    fun total => ?_, fun total => ?_⟩
  · obtain ⟨outer, inner, split, rfl⟩ := exists_split_of_findNth found
    -- Each answer is a case of this one equation.
    have outcome := inPlace_of_found split found edit state
    refine ⟨outer, inner, split, rfl, fun after => ⟨fun new answered => ?_, fun answered => ?_,
      fun first second answered => ?_, fun error answered => ?_⟩⟩
    · rw [answered] at outcome
      exact outcome
    · rw [answered] at outcome
      simpa [Edit.tags] using outcome
    · rw [answered] at outcome
      exact outcome
    · rw [answered] at outcome
      exact outcome
  · rw [asked]
    exact inPlace_ofTotal stack kind skip total state
  · rw [asked, inPlace_ofTotal, run_editNthM_pure]

/-- The second VLAN tag, the last tag there is, gives way to a header of another kind with itself
behind it; a callback that fails after a change of its state changes nothing else; a third VLAN tag
is not asked about. -/
theorem edit_is_local_and_atomic_last_tag :
    let outer : List HeaderTag := [Sample.ether, Sample.vlan 5 0, Sample.ipv4 9]
    let stack : HeaderStack := ⟨outer ++ [Sample.vlan 6 0]⟩
    let count : Callback Nat String := fun tag => do
      modify (· + 1)
      return .insertAfter (Sample.ipv4 3) tag
    let refuse : Callback Nat String := fun _ => do
      set 7
      throw "full"
    stack.findNth .vlan 1 = some (3, Sample.vlan 6 0) ∧
    stack.inPlace (stack.editNthM .vlan 1) count 0 =
      ⟨⟨outer ++ [Sample.ipv4 3, Sample.vlan 6 0]⟩, [Sample.vlan 6 0], 1, .ok ()⟩ ∧
    stack.inPlace (stack.editNthM .vlan 1) refuse 0 =
      ⟨stack, [Sample.vlan 6 0], 7, .error "full"⟩ ∧
    stack.findNth .vlan 2 = none ∧
    stack.inPlace (stack.editNthM .vlan 2) count 0 = ⟨stack, [], 0, .ok ()⟩ := by
  intro outer stack count refuse
  have found : stack.findNth .vlan 1 = some (3, Sample.vlan 6 0) := by decide
  have absent : stack.findNth .vlan 2 = none := by decide
  obtain ⟨-, -, counts, -⟩ := edit_is_local_and_atomic stack .vlan 1 count 0
  obtain ⟨before, rest, split, located, counts⟩ := counts 3 (Sample.vlan 6 0) found
  -- Three tags are outside and one is the tag itself, so none is left inside.
  have shape : outer ++ [Sample.vlan 6 0] = before ++ ([Sample.vlan 6 0] ++ rest) := by
    rw [← List.append_assoc]
    exact split
  obtain ⟨rfl, inside⟩ := List.append_inj shape located.symm
  obtain rfl : rest = [] := List.self_eq_append_right.mp inside
  obtain ⟨-, -, refuses, -⟩ := edit_is_local_and_atomic stack .vlan 1 refuse 0
  obtain ⟨_, _, -, -, refuses⟩ := refuses 3 (Sample.vlan 6 0) found
  obtain ⟨-, -, inserts, -⟩ := counts 1
  exact ⟨found, inserts (Sample.ipv4 3) (Sample.vlan 6 0) rfl, (refuses 7).2.2.2 "full" rfl, absent,
    (edit_is_local_and_atomic stack .vlan 2 count 0).2.1 absent⟩

end HeaderStack

end OpenFlow
