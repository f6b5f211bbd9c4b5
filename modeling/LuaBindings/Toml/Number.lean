import LuaBindings.Decimal.Binary64
import LuaBindings.Toml.Text
/-!
# TOML numbers

Integers of 64 bits in four bases, and floats. Digits may be grouped by underscores, each between
two digits, and a decimal number has no leading zero. A float must not round to positive infinity.
-/

namespace LuaBindings.Toml

/-- Digits of a base after a first one: the number written, their count, and the text behind them.
An underscore must have a digit behind it. -/
def moreDigits (base : Nat) (value count : Nat) (s : List Char) :
    Except Fault (Nat × Nat × List Char) :=
  match s with
  | [] => .ok (value, count, [])
  | '_' :: r =>
    match r with
    | [] => .error .malformed
    | c :: r =>
      match Text.digitIn? base c with
      | none => .error .malformed
      | some d => moreDigits base (base * value + d) (count + 1) r
  | c :: r =>
    match Text.digitIn? base c with
    | none => .ok (value, count, c :: r)
    | some d => moreDigits base (base * value + d) (count + 1) r

/-- Grouped digits of a base, at least one. -/
def digits (base : Nat) (s : List Char) : Except Fault (Nat × Nat × List Char) :=
  match s with
  | [] => .error .malformed
  | c :: r =>
    match Text.digitIn? base c with
    | none => .error .malformed
    | some d => moreDigits base d 1 r

/-- The digits of a decimal integer: a zero alone, or a group that starts with another digit. -/
def wholeDigits (s : List Char) : Except Fault (Nat × List Char) :=
  match s with
  | '0' :: r => .ok (0, r)
  | s => (digits 10 s).map fun (n, _, r) => (n, r)

/-- The exponent of a float, from behind its `e`. -/
def readPower (s : List Char) : Except Fault (Int × List Char) :=
  match s with
  | '-' :: r => (digits 10 r).map fun (n, _, r) => (-n, r)
  | '+' :: r => (digits 10 r).map fun (n, _, r) => (n, r)
  | s => (digits 10 s).map fun (n, _, r) => (n, r)

/-- What follows the whole part of a number: a fraction, an exponent, or both. It is nothing for an
integer; for a float it is the digits so far, the power of ten, and the text behind. -/
def readScale (whole : Nat) (s : List Char) : Except Fault (Option (Nat × Int) × List Char) :=
  match s with
  | '.' :: r => do
    let (fraction, count, r) ← digits 10 r
    let value := whole * Nat.pow 10 count + fraction
    match r with
    | 'e' :: r | 'E' :: r =>
      let (power, r) ← readPower r
      return (some (value, power - count), r)
    | r => return (some (value, -count), r)
  | 'e' :: r | 'E' :: r => do
    let (power, r) ← readPower r
    return (some (whole, power), r)
  | s => return (none, s)

/-- Whether `value · 10 ^ power` rounds to no finite double. -/
def isTooLarge (value : Nat) (power : Int) : Bool :=
  if value = 0 then false
  else
    let magnitude : Int := (Nat.toDigits 10 value).length + power
    if magnitude < 300 then false
    else if 310 < magnitude then true
    else (Decimal.Binary64.ofRatio? (value * Nat.pow 10 power.toNat)
      (Nat.pow 10 (-power).toNat)).isNone

/-- An integer, if 64 bits hold it. -/
def boundedInteger (n : Int) : Except Fault Value :=
  if -Nat.pow 2 63 ≤ n ∧ n < Nat.pow 2 63 then .ok (.integer n) else .error .outOfRange

/-- What a piece of text is, given the text from its front and the text behind it. -/
def written (s r : List Char) : String := String.ofList (s.take (s.length - r.length))

/-- The names of the floats that no digits write. -/
def special? (s : List Char) : Option (List Char) :=
  match s with
  | 'i' :: 'n' :: 'f' :: r => some r
  | 'n' :: 'a' :: 'n' :: r => some r
  | _ => none

/-- A number in decimal; `s` is the text behind its sign, `signed` that from the sign on. -/
def readDecimal (negative : Bool) (signed s : List Char) : Except Fault (Value × List Char) :=
  match special? s with
  | some r => .ok (.float (written signed r), r)
  | none => do
    let (whole, r) ← wholeDigits s
    let (scale, r) ← readScale whole r
    match scale with
    | some (value, power) =>
      if !negative && isTooLarge value power then throw .outOfRange
      return (.float (written signed r), r)
    | none =>
      let n : Int := if negative then -whole else whole
      return (← boundedInteger n, r)

/-- An integer in a given base, from behind the mark of the base. -/
def readInBase (base : Nat) (s : List Char) : Except Fault (Value × List Char) := do
  let (n, _, r) ← digits base s
  return (← boundedInteger n, r)

/-- A number. Only a number without a sign may be in another base than ten. -/
def readNumber (s : List Char) : Except Fault (Value × List Char) :=
  match s with
  | '0' :: 'x' :: r => readInBase 16 r
  | '0' :: 'o' :: r => readInBase 8 r
  | '0' :: 'b' :: r => readInBase 2 r
  | '+' :: r => readDecimal false s r
  | '-' :: r => readDecimal true s r
  | s => readDecimal false s s

end LuaBindings.Toml
