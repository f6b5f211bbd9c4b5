import LuaBindings.Decimal.Shortest
import LuaBindings.Json.Text
/-!
# Numbers

A number is read only to be named in a message. One without fraction and exponent that fits 64 bits
is an integer; any other is a double. The digits of a double go into a significand of 64 bits;
digits that no longer fit are dropped, and the power of ten makes up for those before the point.
-/

namespace LuaBindings.Json

open Decimal (Binary64)
open Text (digit? isDigit)

/-- The largest significand. -/
def maxSignificand : Nat := Nat.pow 2 64 - 1

/-- The largest exponent that is taken as written. -/
def maxExponent : Nat := Nat.pow 2 31 - 1

/-- Digits appended to a number while it stays within `limit`: the number, how many digits went into
it, and the text from the first digit on that did not. -/
def appendDigits (limit : Nat) (value count : Nat) (s : List Char) : Nat × Nat × List Char :=
  match s with
  | [] => (value, count, [])
  | c :: r =>
    match digit? c with
    | none => (value, count, s)
    | some d =>
      if limit < 10 * value + d then (value, count, s)
      else appendDigits limit (10 * value + d) (count + 1) r

/-- A double divided by `step` as many times as `times` says; zero stays zero. -/
def divideRepeatedly (step x : Binary64) : (times : Nat) → Option Binary64
  | 0 => some x
  | times + 1 =>
    if x.mantissa = 0 then some x
    else
      match x.div? step with
      | none => none
      | some x => divideRepeatedly step x times

/-- A double divided by `10 ^ power`, in steps of at most `10 ^ 308`. -/
def scaleDown (x : Binary64) (power : Nat) : Option Binary64 := do
  let times := (power - 1) / 308
  let x ← divideRepeatedly (← Binary64.tenTo? 308) x times
  x.div? (← Binary64.tenTo? (power - 308 * times))

/-- The double that a significand and a power of ten stand for, if it is finite. -/
def scale? (significand : Nat) (power : Int) : Option Binary64 := do
  let x ← Binary64.ofRatio? significand 1
  if power < 0 then scaleDown x (-power).toNat
  else if significand = 0 then some x
  else if power ≤ 308 then x.mul? (← Binary64.tenTo? power.toNat)
  else none

/-- A double as it is named in a message. -/
def foundFloat (negative : Bool) (x : Binary64) : Found :=
  .float ((if negative then "-" else "") ++ x.text)

/-- The double behind which `s` follows. -/
def finishFloat (negative : Bool) (significand : Nat) (power : Int) (s : List Char) :
    Except Failure (Found × List Char) :=
  match scale? significand power with
  | some x => .ok (foundFloat negative x, s)
  | none => .error (.before .numberOutOfRange s)

/-- The rest of a double, from behind the `e` of its exponent. A power too large to count makes the
number too large as well, unless it is zero or the power is negative. -/
def readPower (negative : Bool) (significand : Nat) (power : Int) (s : List Char) :
    Except Failure (Found × List Char) :=
  let (down, s) : Bool × List Char :=
    match s with
    | '+' :: r => (false, r)
    | '-' :: r => (true, r)
    | s => (false, s)
  match s with
  | [] => .error (.before .endInValue [])
  | c :: _ =>
    if isDigit c then
      let (exponent, _, rest) := appendDigits maxExponent 0 0 s
      match rest with
      | [] => finishFloat negative significand (if down then power - exponent else power + exponent) []
      | d :: r =>
        if isDigit d then
          if significand ≠ 0 ∧ !down then .error (.before .numberOutOfRange r)
          else .ok (foundFloat negative ⟨0, 0⟩, rest.dropWhile isDigit)
        else finishFloat negative significand (if down then power - exponent else power + exponent) rest
    else .error (.onNext .invalidNumber s)

/-- The rest of a double, from behind the digits of its significand. -/
def readTail (negative : Bool) (significand : Nat) (power : Int) (s : List Char) :
    Except Failure (Found × List Char) :=
  match s with
  | 'e' :: r | 'E' :: r => readPower negative significand power r
  | s => finishFloat negative significand power s

/-- The rest of a double, from behind its point. -/
def readFraction (negative : Bool) (significand : Nat) (power : Int) (s : List Char) :
    Except Failure (Found × List Char) :=
  match s with
  | [] => .error (.before .endInValue [])
  | c :: _ =>
    if isDigit c then
      let (significand, count, rest) := appendDigits maxSignificand significand 0 s
      readTail negative significand (power - count) (rest.dropWhile isDigit)
    else .error (.onNext .invalidNumber s)

/-- An integer that has no fraction and no exponent. A negative zero is no integer. -/
def foundInteger (negative : Bool) (value : Nat) : Found :=
  if !negative then .integer value
  else if value = 0 ∨ Nat.pow 2 63 < value then
    match Binary64.ofRatio? value 1 with
    | some x => foundFloat true x
    | none => .integer (-value)
  else .integer (-value)

/-- The rest of a number, from behind the digits before its point; `significand` holds those of them
that fit, and `dropped` is the number of the others. -/
def readAfterWhole (negative : Bool) (significand dropped : Nat) (s : List Char) :
    Except Failure (Found × List Char) :=
  match s with
  | '.' :: r => readFraction negative significand dropped r
  | 'e' :: r | 'E' :: r => readPower negative significand dropped r
  | s =>
    if dropped = 0 then .ok (foundInteger negative significand, s)
    else finishFloat negative significand dropped s

/-- A number, from its first digit on. -/
def readUnsigned (negative : Bool) (s : List Char) : Except Failure (Found × List Char) :=
  match s with
  | [] => .error (.before .endInValue [])
  | '0' :: r =>
    match r with
    | [] => readAfterWhole negative 0 0 []
    | c :: _ => if isDigit c then .error (.onNext .invalidNumber r) else readAfterWhole negative 0 0 r
  | c :: _ =>
    if isDigit c then
      let (significand, _, rest) := appendDigits maxSignificand 0 0 s
      let further := rest.takeWhile isDigit
      readAfterWhole negative significand further.length (rest.dropWhile isDigit)
    else .error (.onNext .invalidNumber s)

/-- A number with its sign. -/
def readNumber (s : List Char) : Except Failure (Found × List Char) :=
  match s with
  | '-' :: r => readUnsigned true r
  | s => readUnsigned false s

end LuaBindings.Json
