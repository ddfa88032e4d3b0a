/-! # Steps that can fail -/

namespace PortableFilter

variable {ε α β : Type}

/-- Two steps succeed one after the other exactly when each of them does. -/
theorem bind_eq_ok_iff {step : Except ε α} {next : α → Except ε β} {result : β} :
    (step >>= next) = .ok result ↔ ∃ value, step = .ok value ∧ next value = .ok result := by
  cases step with
  | error error => simp [bind, Except.bind]
  | ok value => simp [bind, Except.bind]

theorem map_eq_ok_iff {f : α → β} {step : Except ε α} {result : β} :
    step.map f = .ok result ↔ ∃ value, step = .ok value ∧ f value = result := by
  cases step with
  | error error => simp [Except.map]
  | ok value => simp [Except.map]

theorem exists_map_eq_ok_iff {f : α → β} {step : Except ε α} :
    (∃ result, step.map f = .ok result) ↔ ∃ value, step = .ok value := by
  cases step with
  | error error => simp [Except.map]
  | ok value => simp [Except.map]

theorem bind_eq_error_iff {step : Except ε α} {next : α → Except ε β} {error : ε} :
    (step >>= next) = .error error ↔
      step = .error error ∨ ∃ value, step = .ok value ∧ next value = .error error := by
  cases step with
  | error error => simp [bind, Except.bind]
  | ok value => simp [bind, Except.bind]

theorem map_eq_error_iff {f : α → β} {step : Except ε α} {error : ε} :
    step.map f = .error error ↔ step = .error error := by
  cases step with
  | error error => simp [Except.map]
  | ok value => simp [Except.map]

theorem exists_ok_of_isOk {step : Except ε α} (isOk : step.isOk) : ∃ value, step = .ok value := by
  cases step with
  | error => cases isOk
  | ok value => exact ⟨value, rfl⟩

end PortableFilter
