/-!
# Results that may fail

When a step and the steps behind it succeed.
-/

namespace LuaBindings

/-- A step and what follows it succeed exactly when the step yields a value for which what follows
succeeds. -/
theorem bind_eq_ok {ε α β : Type} {x : Except ε α} {f : α → Except ε β} {b : β} :
    x >>= f = .ok b ↔ ∃ a, x = .ok a ∧ f a = .ok b := by
  cases x with
  | error e =>
      constructor
      · intro h
        cases h
      · rintro ⟨a, h, -⟩
        cases h
  | ok a =>
      constructor
      · intro h
        exact ⟨a, rfl, h⟩
      · rintro ⟨a', h, h'⟩
        cases h
        exact h'

/-- A step of a run that succeeds hands its value and what it leaves to what follows. -/
theorem run_bind_of_ok {ε σ α β : Type} {step : ExceptT ε (StateM σ) α} {before after : σ} {a : α}
    (h : step.run.run before = (.ok a, after)) (next : α → ExceptT ε (StateM σ) β) :
    (step >>= next).run.run before = (next a).run.run after := by
  rw [ExceptT.run_bind, StateT.run_bind, h]
  rfl

/-- If it fails, nothing follows. -/
theorem run_bind_of_error {ε σ α β : Type} {step : ExceptT ε (StateM σ) α} {before after : σ} {e : ε}
    (h : step.run.run before = (.error e, after)) (next : α → ExceptT ε (StateM σ) β) :
    (step >>= next).run.run before = (.error e, after) := by
  rw [ExceptT.run_bind, StateT.run_bind, h]
  rfl

end LuaBindings
