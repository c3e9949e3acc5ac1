import OpenFlow.Sample

/-!
# Lookups by kind and count

A lookup finds the tag that has a given number of tags of its kind before it, and it finds none
if and only if the stack has no more tags of the kind than it is to skip. The search that changes
a tag on its way through the stack stops at the tag that the first lookup finds, so changing that
tag and replacing it by an edit are the same.
-/
namespace OpenFlow

namespace Focus

variable {kind : HeaderKind} {skip : Nat} {tags : List HeaderTag} {focus : Focus}

/-- A focus is found if and only if it is a place in the list that has a tag of the kind, with as
many others outside it as are skipped. -/
theorem on?_eq_some_iff :
    on? kind skip tags = some focus ↔
      focus.replaceBy [focus.tag] = tags ∧ focus.tag.kind = kind ∧
        focus.outer.countP (fun tag => tag.kind = kind) = skip := by
  constructor
  · intro found
    exact ⟨replaceBy_of_on? found, kind_of_on? found, countP_of_on? found⟩
  · rintro ⟨rfl, same, rfl⟩
    have placed : focus.replaceBy [focus.tag] = focus.outer ++ focus.tag :: focus.inner := by
      simp [replaceBy]
    rw [placed]
    exact on?_append focus.outer focus.inner same

/-- The focus on a position of a list. -/
theorem exists_focus_iff {position : Nat} {tag : HeaderTag} :
    tags[position]? = some tag ↔
      ∃ focus : Focus, focus.replaceBy [focus.tag] = tags ∧ focus.outer.length = position ∧
        focus.tag = tag := by
  constructor
  · intro stands
    obtain ⟨inside, rfl⟩ := List.getElem?_eq_some_iff.mp stands
    refine ⟨⟨tags.take position, tags[position], tags.drop (position + 1)⟩, ?_, ?_, rfl⟩
    · simp [replaceBy]
    · simp only [List.length_take]
      omega
  · rintro ⟨focus, rfl, rfl, rfl⟩
    simp [replaceBy]

theorem take_replaceBy (focus : Focus) (others : List HeaderTag) :
    (focus.replaceBy others).take focus.outer.length = focus.outer := by
  simp [replaceBy, List.append_assoc]

/-- Replacing the tag in focus is overwriting its position. -/
theorem set_replaceBy (focus : Focus) (old new : HeaderTag) :
    (focus.replaceBy [old]).set focus.outer.length new = focus.replaceBy [new] := by
  simp [replaceBy]

end Focus

namespace HeaderStack

variable {kind : HeaderKind} {skip position : Nat} {tag : HeaderTag}

theorem count_map_kind (tags : List HeaderTag) :
    (tags.map HeaderTag.kind).count kind = tags.countP fun tag => tag.kind = kind := by
  rw [List.count, List.countP_map]
  exact List.countP_congr fun tag _ => by simp

theorem findNth_eq_some_iff {stack : HeaderStack} :
    stack.findNth kind skip = some (position, tag) ↔
      stack.tags[position]? = some tag ∧ tag.kind = kind ∧
        (stack.kinds.take position).count kind = skip := by
  rw [kinds, ← List.map_take, count_map_kind, Focus.exists_focus_iff, findNth,
    Option.map_eq_some_iff]
  constructor
  · rintro ⟨focus, found, located⟩
    obtain ⟨rfl, rfl⟩ := Prod.mk.inj located
    obtain ⟨placed, same, counted⟩ := Focus.on?_eq_some_iff.mp found
    rw [← placed, Focus.take_replaceBy]
    exact ⟨⟨focus, rfl, rfl, rfl⟩, same, counted⟩
  · rintro ⟨⟨focus, placed, rfl, rfl⟩, same, counted⟩
    rw [← placed, Focus.take_replaceBy] at counted
    exact ⟨focus, Focus.on?_eq_some_iff.mpr ⟨placed, same, counted⟩, rfl⟩

theorem findNth_eq_none_iff {stack : HeaderStack} :
    stack.findNth kind skip = none ↔ stack.kinds.count kind ≤ skip := by
  rw [findNth, Option.map_eq_none_iff, Focus.on?_eq_none_iff, kinds, count_map_kind]

/-- The tag that is changed is the one that is found, and it stays where it is. -/
theorem modifyFirst?_eq_map_find (stack : HeaderStack) (kind : HeaderKind)
    (change : HeaderTag → HeaderTag) :
    stack.modifyFirst? kind change =
      (stack.find kind).map fun found => ⟨stack.tags.set found.1 (change found.2)⟩ := by
  rw [modifyFirst?, go_modifyFirst?, find, findNth, Option.map_map, Option.map_map]
  cases found : Focus.on? kind 0 stack.tags with
  | none => rfl
  | some focus =>
    have placed := Focus.replaceBy_of_on? found
    have written : stack.tags.set focus.outer.length (change focus.tag) =
        focus.replaceBy [change focus.tag] := by
      rw [← placed, Focus.set_replaceBy]
    simp only [Option.map_some, Function.comp_apply, written]

theorem modifyFirst?_eq_map_editNth (stack : HeaderStack) (kind : HeaderKind)
    (change : HeaderTag → HeaderTag) :
    stack.modifyFirst? kind change =
      (stack.find kind).map fun _ => stack.editNth kind 0 fun tag => .replace (change tag) := by
  rw [modifyFirst?, go_modifyFirst?, find, findNth, editNth, editNthM]
  cases Focus.on? kind 0 stack.tags <;> rfl

/-- A tag is found at a position if and only if it stands there, is of the kind and has as many
tags of the kind before it as are skipped; none is found if and only if there are no more of them
than that. The first lookup skips none. The search that changes a tag comes to the one that the
first lookup finds, if there is one, and overwriting it is an edit that replaces it. -/
theorem lookups_count_and_agree (stack : HeaderStack) (kind : HeaderKind) :
    (∀ skip position tag, stack.findNth kind skip = some (position, tag) ↔
      stack.tags[position]? = some tag ∧ tag.kind = kind ∧
        (stack.kinds.take position).count kind = skip) ∧
    (∀ skip, stack.findNth kind skip = none ↔ stack.kinds.count kind ≤ skip) ∧
    stack.find kind = stack.findNth kind 0 ∧
    (∀ change, stack.modifyFirst? kind change =
      (stack.find kind).map fun found => ⟨stack.tags.set found.1 (change found.2)⟩) ∧
    (∀ tag, stack.modifyFirst? kind (fun _ => tag) =
      (stack.find kind).map fun _ => stack.editNth kind 0 fun _ => .replace tag) ∧
    ∀ change, stack.modifyFirst? kind change = none ↔ stack.find kind = none := by
  refine ⟨fun skip position tag => findNth_eq_some_iff, fun skip => findNth_eq_none_iff, rfl,
    modifyFirst?_eq_map_find stack kind, fun tag => modifyFirst?_eq_map_editNth stack kind _,
    fun change => ?_⟩
  rw [modifyFirst?_eq_map_find, Option.map_eq_none_iff]

/-- The second of three VLAN tags stands behind one of them; there is no fourth. -/
example :
    let stack : HeaderStack :=
      ⟨[Sample.ether, Sample.vlan 5 0, Sample.ipv4 9, Sample.vlan 6 0, Sample.vlan 7 0]⟩
    stack.findNth .vlan 1 = some (3, Sample.vlan 6 0) ∧ stack.findNth .vlan 3 = none := by
  decide

end HeaderStack

end OpenFlow
