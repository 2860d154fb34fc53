/-!
# Results that are not failures

A chain of steps gives a value only if each step of it does.
-/

namespace ComponentCompiler.Result

variable {ε α β : Type} {result : Except ε α} {b : β}

theorem exists_of_bind_eq_ok {next : α → Except ε β} (h : result >>= next = .ok b) :
    ∃ a, result = .ok a ∧ next a = .ok b := by
  cases result with
  | ok a => exact ⟨a, rfl, h⟩
  | error e => exact absurd h (by simp [bind, Except.bind])

theorem exists_of_map_eq_ok {f : α → β} (h : result.map f = .ok b) :
    ∃ a, result = .ok a ∧ f a = b := by
  cases result with
  | ok a => exact ⟨a, rfl, Except.ok.inj h⟩
  | error e => exact absurd h (by simp [Except.map])

end ComponentCompiler.Result
