import Mathlib.Data.List.Forall2
import OpenFlow.Diagnostic.ErrorTrace

/-!
# Truncated traces

Errors are appended to a trace layer by layer, and an append stops at the first layer that does
not fit. Whatever was appended, the trace holds the outermost layers up to its capacity and says
whether there were more, so of several appends those succeed whose layers fit together with all
layers before them.
-/
namespace OpenFlow

namespace ErrorValue

variable {error cause : ErrorValue} {names : List String}

/-- The names met on the way from an error to its cause, and on to the last cause. -/
inductive Walk : ErrorValue → List String → Prop where
  | last {error : ErrorValue} (innermost : error.cause? = none) : Walk error [error.name]
  | next {error cause : ErrorValue} {names : List String} (around : error.cause? = some cause)
      (inward : Walk cause names) : Walk error (error.name :: names)

/-- There is one walk from each error, along its layers. -/
theorem walk_iff : Walk error names ↔ error.layers = names := by
  constructor
  · intro walk
    induction walk with
    | last innermost => rw [layers_eq, innermost]; rfl
    | next around inward ih => rw [layers_eq, around, Option.map_some, ih]; rfl
  · rintro rfl
    induction error with
    | wrapping name cause ih => exact .next rfl ih
    | unit name => exact .last rfl
    | leaf name => exact .last rfl
    | tuple name arity => exact .last rfl
    | record name fields => exact .last rfl

theorem layers_ne_nil (error : ErrorValue) : error.layers ≠ [] := by
  rw [layers_eq]
  exact List.cons_ne_nil _ _

theorem map_layers_of_walks {errors : List ErrorValue} {chains : List (List String)}
    (walks : List.Forall₂ Walk errors chains) : errors.map layers = chains := by
  induction walks with
  | nil => rfl
  | cons walk walks ih => rw [List.map_cons, ih, walk_iff.mp walk]

/-- From a declared variant the walk goes on in its only positional field, if it is no leaf. -/
theorem walk_ofVariant (variant : Variant) {inside : ErrorValue} (inward : Walk inside names) :
    Walk (ofVariant variant inside)
      (if variant.fields = .positional 1 ∧ variant.isLeaf = false
        then variant.name :: names else [variant.name]) := by
  have next := cause?_ofVariant variant inside
  rw [← name_ofVariant variant inside]
  split
  next wraps =>
    rw [if_pos wraps] at next
    exact .next next inward
  next ends =>
    rw [if_neg ends] at next
    exact .last next

end ErrorValue

namespace ErrorTrace

variable {capacity : Nat} {trace : ErrorTrace capacity} {names : List String}

/-- Append errors one after another, whether or not they still fit. -/
def appendAll (trace : ErrorTrace capacity) (errors : List ErrorValue) : ErrorTrace capacity :=
  errors.foldl (fun trace error => (trace.append error).trace) trace

/-- The trace holds what fits of the names and says whether there are more. -/
structure Holds (trace : ErrorTrace capacity) (names : List String) : Prop where
  entries : trace.entries = names.take capacity
  truncated : trace.truncated = true ↔ capacity < names.length

theorem holds_empty (capacity : Nat) : Holds (empty : ErrorTrace capacity) [] := by
  constructor
  · simp [empty]
  · simp [empty]

theorem Holds.length_entries (holds : Holds trace names) :
    trace.entries.length = min capacity names.length := by
  rw [holds.entries, List.length_take]

theorem Outcome.eq_ite (outcome : Outcome capacity) :
    outcome = if outcome.succeeded then .ok outcome.trace else .error outcome.trace := by
  cases outcome <;> rfl

theorem appendName_of_room (holds : Holds trace names) (room : names.length < capacity)
    (name : String) :
    ∃ after, trace.appendName name = .ok after ∧ Holds after (names ++ [name]) := by
  have below : trace.entries.length < capacity := by
    rw [holds.length_entries]
    omega
  refine ⟨_, dif_pos below, ?_, ?_⟩
  · have whole : names.take capacity = names := List.take_of_length_le (Nat.le_of_lt room)
    have wholeAfter : (names ++ [name]).take capacity = names ++ [name] := by
      apply List.take_of_length_le
      rw [List.length_append, List.length_singleton]
      omega
    simp only [holds.entries, whole, wholeAfter]
  · simp only [holds.truncated, List.length_append, List.length_singleton]
    omega

/-- A name that does not fit stands for all names after it, which do not fit either. -/
theorem appendName_of_full (holds : Holds trace names) (full : capacity ≤ names.length)
    (name : String) (later : List String) :
    ∃ after, trace.appendName name = .error after ∧ Holds after (names ++ name :: later) := by
  have filled : ¬ trace.entries.length < capacity := by
    rw [holds.length_entries]
    omega
  refine ⟨_, dif_neg filled, ?_, ?_⟩
  · simp only [holds.entries, List.take_append_of_le_length full]
  · simp only [List.length_append, List.length_cons, true_iff]
    omega

/-- Appending layers one by one succeeds if and only if they all fit, and either way the trace then
holds what fits. -/
theorem holds_foldlM (holds : Holds trace names) (layers : List String) :
    Holds (Outcome.trace (layers.foldlM appendName trace)) (names ++ layers) ∧
      (Outcome.succeeded (layers.foldlM appendName trace) = true ↔
        layers = [] ∨ (names ++ layers).length ≤ capacity) := by
  induction layers generalizing trace names with
  | nil =>
    rw [List.append_nil]
    exact ⟨holds, by simp [pure, Except.pure, Outcome.succeeded]⟩
  | cons name later ih =>
    rw [List.foldlM_cons]
    by_cases room : names.length < capacity
    · obtain ⟨after, appended, held⟩ := appendName_of_room holds room name
      rw [appended, List.append_cons names name later]
      obtain ⟨kept, succeeded⟩ := ih held
      refine ⟨kept, succeeded.trans ?_⟩
      -- With nothing left to append, the name itself was what had to fit.
      constructor
      · rintro (rfl | fits)
        · simp only [List.append_nil, List.length_append, List.length_singleton]
          omega
        · exact .inr fits
      · rintro (none | fits)
        · cases none
        · exact .inr fits
    · obtain ⟨after, refused, held⟩ :=
        appendName_of_full holds (Nat.le_of_not_lt room) name later
      rw [refused]
      refine ⟨held, ?_⟩
      simp only [bind, Except.bind, Outcome.succeeded, List.length_append, List.length_cons]
      constructor
      · intro impossible
        cases impossible
      · rintro (none | fits)
        · cases none
        · omega

theorem holds_append (holds : Holds trace names) (error : ErrorValue) :
    Holds (trace.append error).trace (names ++ error.layers) ∧
      ((trace.append error).succeeded = true ↔ (names ++ error.layers).length ≤ capacity) := by
  obtain ⟨kept, succeeded⟩ := holds_foldlM holds error.layers
  refine ⟨kept, succeeded.trans ?_⟩
  simp [error.layers_ne_nil]

theorem Holds.appendAll (holds : Holds trace names) (errors : List ErrorValue) :
    Holds (trace.appendAll errors) (names ++ errors.flatMap ErrorValue.layers) := by
  induction errors generalizing trace names with
  | nil => simpa [ErrorTrace.appendAll] using holds
  | cons error later ih =>
    rw [List.flatMap_cons, ← List.append_assoc]
    exact ih (holds_append holds error).1

theorem holds_appendAll (capacity : Nat) (errors : List ErrorValue) :
    Holds ((empty : ErrorTrace capacity).appendAll errors) (errors.flatMap ErrorValue.layers) :=
  (holds_empty capacity).appendAll errors

theorem ofError_eq (error : ErrorValue) :
    (ofError error : Outcome capacity) =
      if error.layers.length ≤ capacity then .ok (empty.appendAll [error])
      else .error (empty.appendAll [error]) := by
  have fits := (holds_append (holds_empty capacity) error).2
  rw [List.nil_append] at fits
  rw [ofError, Outcome.eq_ite (empty.append error)]
  simp only [fits]
  rfl

/-- A declared variant starts a chain with its name, and the chain goes on in the only positional
field of a variant that is no leaf. Errors appended to an empty trace leave the first names of all
their chains in it, as many as fit, and the trace is truncated if and only if there are more. An
append succeeds if and only if its names and those of all appends before it fit together. An error
on its own gives the same trace, as a success if it fits and as an error if not. The text joins the
names and says when it stops early. -/
theorem trace_holds_outermost_layers (capacity : Nat) (errors : List ErrorValue)
    (chains : List (List String)) (walks : List.Forall₂ ErrorValue.Walk errors chains) :
    let names := chains.flatten
    let trace : ErrorTrace capacity := empty.appendAll errors
    (∀ variant inside inward, ErrorValue.Walk inside inward →
      ErrorValue.Walk (.ofVariant variant inside)
        (if variant.fields = .positional 1 ∧ variant.isLeaf = false
          then variant.name :: inward else [variant.name])) ∧
    trace.entries = names.take (min capacity names.length) ∧
    (trace.truncated = true ↔ capacity < names.length) ∧
    (∀ i error, errors[i]? = some error →
      ((((empty : ErrorTrace capacity).appendAll (errors.take i)).append error).succeeded = true ↔
        (chains.take (i + 1)).flatten.length ≤ capacity)) ∧
    (∀ error, errors = [error] → (ofError error : Outcome capacity) =
      if names.length ≤ capacity then .ok trace else .error trace) ∧
    trace.text = "/".intercalate trace.entries ++ if trace.truncated then "/..." else "" := by
  intro names trace
  have mapped := ErrorValue.map_layers_of_walks walks
  have counted : ∀ count,
      (chains.take count).flatten = (errors.take count).flatMap ErrorValue.layers := by
    intro count
    rw [← mapped, ← List.map_take, List.flatMap_def]
  have held : Holds trace names := by
    have all : names = errors.flatMap ErrorValue.layers := by
      simp only [names, ← mapped, List.flatMap_def]
    rw [all]
    exact holds_appendAll capacity errors
  refine ⟨fun variant inside inward => ErrorValue.walk_ofVariant variant, ?_, held.truncated,
    fun i error there => ?_, fun error only => ?_, rfl⟩
  · rw [held.entries, List.take_eq_take_iff]
    omega
  · -- What was appended before is held, and this error adds its own chain.
    have before := holds_append (holds_appendAll capacity (errors.take i)) error
    rw [before.2, counted, List.take_add_one, there]
    simp
  · subst only
    have alone : names = error.layers := by
      simp only [names, ← mapped, List.map_cons, List.map_nil, List.flatten_singleton]
    rw [alone]
    exact ofError_eq error

/-- The second of three errors has a layer more than fits, and the third has none that does. -/
theorem trace_holds_outermost_layers_second_cut :
    let badPort := SendError.value (.badPort .any)
    let invalidTtl := ActionError.value (.invalidTtl .mpls)
    let chains := [["BadPort"], ["InvalidTtl", "Mpls"], ["BadPort"]]
    let trace : ErrorTrace 2 := empty.appendAll [badPort, invalidTtl, badPort]
    List.Forall₂ ErrorValue.Walk [badPort, invalidTtl, badPort] chains ∧
    trace.entries = ["BadPort", "InvalidTtl"] ∧ trace.truncated = true ∧
    ((empty : ErrorTrace 2).append badPort).succeeded = true ∧
    ((empty.appendAll [badPort] : ErrorTrace 2).append invalidTtl).succeeded = false ∧
    ((empty.appendAll [badPort, invalidTtl] : ErrorTrace 2).append badPort).succeeded = false ∧
    trace.text = "BadPort/InvalidTtl/..." ∧
    (ofError invalidTtl : Outcome 0) = .error (empty.appendAll [invalidTtl]) := by
  intro badPort invalidTtl chains trace
  have port : ErrorValue.Walk badPort ["BadPort"] := .last rfl
  have ttl : ErrorValue.Walk invalidTtl ["InvalidTtl", "Mpls"] := .next rfl (.last rfl)
  have walks : List.Forall₂ ErrorValue.Walk [badPort, invalidTtl, badPort] chains :=
    .cons port (.cons ttl (.cons port .nil))
  obtain ⟨-, entries, truncated, succeeded, -, text⟩ :=
    trace_holds_outermost_layers 2 _ _ walks
  obtain ⟨-, -, -, -, alone, -⟩ :=
    trace_holds_outermost_layers 0 [invalidTtl] _ (.cons ttl .nil)
  have first := succeeded 0 badPort rfl
  have second := succeeded 1 invalidTtl rfl
  have third := succeeded 2 badPort rfl
  refine ⟨walks, entries, truncated.mpr (by decide), first.mpr (by decide), ?_, ?_, ?_,
    alone invalidTtl rfl⟩
  · exact Bool.eq_false_iff.mpr fun fits => absurd (second.mp fits) (by decide)
  · exact Bool.eq_false_iff.mpr fun fits => absurd (third.mp fits) (by decide)
  · rw [text, entries]
    rfl

end ErrorTrace

end OpenFlow
