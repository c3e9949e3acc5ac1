import OpenFlow.Engine.Journal

/-!
# Runs

A run is a computation that may fail, together with the journal of what it did
until then. Running one computation after another joins their journals, and a
failure keeps everything after it from happening.
-/
namespace OpenFlow

structure Run (α : Type) where
  journal : Journal
  result : Except ActionError α

namespace Run

variable {α β γ : Type}

protected def bind (run : Run α) (next : α → Run β) : Run β :=
  match run.result with
  | .ok value => ⟨run.journal ++ (next value).journal, (next value).result⟩
  | .error error => ⟨run.journal, .error error⟩

instance : Monad Run where
  pure value := ⟨[], .ok value⟩
  bind := Run.bind

theorem pure_eq (value : α) : (pure value : Run α) = ⟨[], .ok value⟩ := rfl

theorem bind_ok (journal : Journal) (value : α) (next : α → Run β) :
    (Run.mk journal (.ok value) >>= next)
      = ⟨journal ++ (next value).journal, (next value).result⟩ := rfl

theorem bind_error (journal : Journal) (error : ActionError) (next : α → Run β) :
    (Run.mk journal (.error error) >>= next) = ⟨journal, .error error⟩ := rfl

instance : LawfulMonad Run := LawfulMonad.mk' Run
  (fun run => by
    obtain ⟨journal, result⟩ := run
    cases result with
    | ok value =>
      change Run.mk (journal ++ []) (.ok value) = _
      rw [List.append_nil]
    | error error => rfl)
  (fun value next => rfl)
  (fun run first second => by
    obtain ⟨journal, result⟩ := run
    cases result with
    | error error => rfl
    | ok value =>
      rw [bind_ok, bind_ok]
      obtain ⟨middle, outcome⟩ := first value
      cases outcome with
      | error error => rfl
      | ok value => simp only [bind_ok, List.append_assoc])

theorem bind_of_ok {run : Run α} {value : α} (returned : run.result = .ok value)
    (next : α → Run β) :
    (run >>= next) = ⟨run.journal ++ (next value).journal, (next value).result⟩ := by
  obtain ⟨journal, result⟩ := run
  cases returned
  exact bind_ok journal value next

theorem bind_of_error {run : Run α} {error : ActionError} (failed : run.result = .error error)
    (next : α → Run β) : (run >>= next) = ⟨run.journal, .error error⟩ := by
  obtain ⟨journal, result⟩ := run
  cases failed
  exact bind_error journal error next

theorem map_eq_ok_iff {result : Except ActionError α} {change : α → β} {changed : β} :
    result.map change = .ok changed ↔ ∃ value, result = .ok value ∧ change value = changed := by
  cases result <;> simp [Except.map]

theorem map_eq_error_iff {result : Except ActionError α} {change : α → β} {error : ActionError} :
    result.map change = .error error ↔ result = .error error := by
  cases result <;> simp [Except.map]

theorem bind_pure_eq (run : Run α) (change : α → β) :
    (run >>= fun value => pure (change value)) = ⟨run.journal, run.result.map change⟩ := by
  cases returned : run.result with
  | ok value => simp [bind_of_ok returned, pure_eq, Except.map]
  | error error => simp [bind_of_error returned, Except.map]

end Run

end OpenFlow
