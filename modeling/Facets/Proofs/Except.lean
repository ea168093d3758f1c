namespace Facets

variable {ε α β : Type} {x : Except ε α}

theorem exists_of_bind_ok {f : α → Except ε β} {b : β} (run : x.bind f = .ok b) :
    ∃ a, x = .ok a ∧ f a = .ok b := by
  cases x with
  | error error => cases run
  | ok a => exact ⟨a, rfl, run⟩

theorem exists_of_bind_error {f : α → Except ε β} {error : ε} (run : x.bind f = .error error) :
    x = .error error ∨ ∃ a, x = .ok a ∧ f a = .error error := by
  cases x with
  | error cause => exact Or.inl (congrArg Except.error (Except.error.inj run))
  | ok a => exact Or.inr ⟨a, rfl, run⟩

theorem exists_of_map_ok {f : α → β} {b : β} (run : x.map f = .ok b) :
    ∃ a, x = .ok a ∧ f a = b := by
  cases x with
  | error error => cases run
  | ok a => exact ⟨a, rfl, Except.ok.inj run⟩

theorem eq_error_of_map_error {f : α → β} {error : ε} (run : x.map f = .error error) :
    x = .error error := by
  cases x with
  | error cause => exact congrArg Except.error (Except.error.inj run)
  | ok a => cases run

end Facets
