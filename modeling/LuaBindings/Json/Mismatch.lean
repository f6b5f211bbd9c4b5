import LuaBindings.Json.Number
/-!
# Values of the wrong type

A value that stands where another type is expected is read as far as its name in the message needs:
a scalar to its end, a container not at all. A fault inside the scalar is reported instead.
-/

namespace LuaBindings.Json

open Text (isDigit)

/-- The remaining letters of a literal. -/
def readLiteral : List Char → List Char → Except Failure (List Char)
  | [], s => .ok s
  | _ :: _, [] => .error (.before .endInValue [])
  | e :: es, c :: r => if c = e then readLiteral es r else .error (.onNext .expectedLiteral (c :: r))

theorem readLiteral_length_le {letters s r : List Char} (h : readLiteral letters s = .ok r) :
    r.length ≤ s.length := by
  induction letters generalizing s with
  | nil =>
    simp only [readLiteral, Except.ok.injEq] at h
    exact h ▸ Nat.le_refl _
  | cons e es ih =>
    cases s with
    | nil => simp [readLiteral] at h
    | cons c tail =>
      simp only [readLiteral] at h
      split at h
      · exact Nat.le_succ_of_le (ih h)
      · simp at h

/-- The failure of a text that starts with anything but the expected value. -/
def mismatch (expected : String) (s : List Char) : Failure :=
  let named : Except Failure (Found × List Char) → Failure
    | .error e => e
    | .ok (found, r) => .before (.wrongType found expected) r
  match s with
  | [] => .before .endInValue []
  | c :: r =>
    if c = 'n' then named ((readLiteral ['u', 'l', 'l'] r).map (Found.null, ·))
    else if c = 't' then named ((readLiteral ['r', 'u', 'e'] r).map (Found.boolean true, ·))
    else if c = 'f' then named ((readLiteral ['a', 'l', 's', 'e'] r).map (Found.boolean false, ·))
    else if c = '-' ∨ isDigit c then named (readNumber s)
    else if c = '"' then named ((readString [] r).map fun (t, r) => (Found.text t, r))
    else if c = '[' then .before (.wrongType .sequence expected) s
    else if c = '{' then .before (.wrongType .map expected) s
    else .onNext .expectedValue s

end LuaBindings.Json
