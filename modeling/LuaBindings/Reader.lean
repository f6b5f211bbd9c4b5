/-!
# Readers

A reader takes a value off the front of a text and hands back what is left. A successful reader
always takes at least one character: a loop that reads item after item therefore ends, and the
proof travels with the reader instead of being repeated at every loop.
-/

namespace LuaBindings

/-- A way of reading an `α` off the front of a text, failing with an `ε`. -/
structure Reader (ε α : Type) where
  /-- The value read and the text left, or why nothing could be read. -/
  read : List Char → Except ε (α × List Char)
  /-- Success takes at least one character. -/
  shrinks : ∀ {s a r}, read s = .ok (a, r) → r.length < s.length

namespace Reader

variable {ε α β : Type}

/-- Read, then change the value. -/
def map (f : α → β) (p : Reader ε α) : Reader ε β where
  read s :=
    match p.read s with
    | .error e => .error e
    | .ok (a, r) => .ok (f a, r)
  shrinks {s b r} h := by
    cases hp : p.read s with
    | error e => simp [hp] at h
    | ok step =>
      obtain ⟨a, r'⟩ := step
      simp only [hp, Except.ok.injEq, Prod.mk.injEq] at h
      exact h.2 ▸ p.shrinks hp

/-- Read a first value, then a second one that may depend on it. -/
def bind (p : Reader ε α) (q : α → Reader ε β) : Reader ε β where
  read s :=
    match p.read s with
    | .error e => .error e
    | .ok (a, r) => (q a).read r
  shrinks {s b r} h := by
    cases hp : p.read s with
    | error e => simp [hp] at h
    | ok step =>
      obtain ⟨a, r'⟩ := step
      simp only [hp] at h
      exact Nat.lt_trans ((q a).shrinks h) (p.shrinks hp)

/-- A reader that never succeeds. -/
def fail (failure : List Char → ε) : Reader ε α where
  read s := .error (failure s)
  shrinks h := by simp at h

/-- The reader of a step for which taking nothing is a fault. -/
def ofStep (step : List Char → Except ε (α × List Char)) (stuck : ε) : Reader ε α where
  read s :=
    match step s with
    | .error e => .error e
    | .ok (a, r) => if r.length < s.length then .ok (a, r) else .error stuck
  shrinks {s a r} h := by
    split at h
    · simp at h
    · split at h
      · rename_i shorter
        simp only [Except.ok.injEq, Prod.mk.injEq] at h
        exact h.2 ▸ shorter
      · simp at h

@[simp] theorem read_fail (failure : List Char → ε) (s : List Char) :
    (fail failure : Reader ε α).read s = .error (failure s) := rfl

theorem read_map (f : α → β) (p : Reader ε α) (s : List Char) :
    (p.map f).read s = (p.read s).map fun (a, r) => (f a, r) := by
  cases h : p.read s <;> simp [map, h, Except.map]

theorem read_bind (p : Reader ε α) (q : α → Reader ε β) (s : List Char) :
    (p.bind q).read s = (p.read s).bind fun (a, r) => (q a).read r := by
  cases h : p.read s <;> simp [bind, h, Except.bind]

end Reader

/-- Dropping characters never lengthens a text. -/
theorem length_dropWhile_le {α : Type} (p : α → Bool) (s : List α) :
    (s.dropWhile p).length ≤ s.length :=
  (List.dropWhile_sublist p).length_le

end LuaBindings
