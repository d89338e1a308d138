import Mathlib.Data.List.Forall2

/-!
# Steps in sequence

Steps that may fail come to a result only if each of them does.
-/

namespace StreamingChat

variable {ε α β : Type} {result : Except ε α} {value : β}

theorem exists_of_bind {next : α → Except ε β} (read : result >>= next = .ok value) :
    ∃ found, result = .ok found ∧ next found = .ok value := by
  cases result with
  | error fault => cases read
  | ok found => exact ⟨found, rfl, read⟩

theorem exists_of_map {change : α → β} (read : result.map change = .ok value) :
    ∃ found, result = .ok found ∧ change found = value := by
  cases result with
  | error fault => cases read
  | ok found => exact ⟨found, rfl, Except.ok.inj read⟩

theorem ok_of_mapError {δ : Type} {change : ε → δ} {found : α}
    (read : result.mapError change = .ok found) : result = .ok found := by
  cases result with
  | error fault => cases read
  | ok other => exact congrArg _ (Except.ok.inj read)

/-- If a step for each of several items comes to a result, each result is that of its item. -/
theorem forall₂_of_mapM {step : α → Except ε β} {items : List α} {values : List β}
    (read : items.mapM step = .ok values) :
    List.Forall₂ (fun item value => step item = .ok value) items values := by
  induction items generalizing values with
  | nil =>
      cases read
      exact .nil
  | cons item rest ih =>
      rw [List.mapM_cons] at read
      rcases exists_of_bind read with ⟨first, found, later⟩
      rcases exists_of_bind later with ⟨others, foundLater, same⟩
      cases same
      exact .cons found (ih foundLater)

end StreamingChat
