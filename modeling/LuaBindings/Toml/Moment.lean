import LuaBindings.Toml.Text
/-!
# Moments

Dates, times of day, and both together, with or without an offset. Days must exist in their month.
-/

namespace LuaBindings.Toml

/-- The number that exactly so many digits write, and the text behind them. -/
def fixedDigits? (count : Nat) (s : List Char) : Option (Nat × List Char) :=
  let written := s.take count
  if written.length < count then none else (Text.number? 10 written).map (·, s.drop count)

/-- Such a number between two bounds. -/
def boundedDigits? (count low high : Nat) (s : List Char) : Option (Nat × List Char) := do
  let (n, r) ← fixedDigits? count s
  if low ≤ n && n ≤ high then some (n, r) else none

/-- The text behind a given character. -/
def expect? (c : Char) (s : List Char) : Option (List Char) :=
  match s with
  | d :: r => if d = c then some r else none
  | [] => none

/-- Whether a year has a day more. -/
def isLeapYear (year : Nat) : Bool := year % 4 = 0 && (year % 100 ≠ 0 || year % 400 = 0)

/-- The number of days of a month. -/
def daysInMonth (year month : Nat) : Nat :=
  if month = 2 then if isLeapYear year then 29 else 28
  else if month = 4 || month = 6 || month = 9 || month = 11 then 30
  else 31

/-- The text behind a date. -/
def skipDate? (s : List Char) : Option (List Char) := do
  let (year, r) ← fixedDigits? 4 s
  let (month, r) ← boundedDigits? 2 1 12 (← expect? '-' r)
  let (_, r) ← boundedDigits? 2 1 (daysInMonth year month) (← expect? '-' r)
  return r

/-- The text behind the fraction of a second, if one follows. -/
def skipSecondFraction (s : List Char) : List Char :=
  match s with
  | '.' :: c :: r => if Text.isDigit c then r.dropWhile Text.isDigit else s
  | s => s

/-- The text behind a time of day. A minute may have a leap second. -/
def skipTime? (s : List Char) : Option (List Char) := do
  let (_, r) ← boundedDigits? 2 0 23 s
  let (_, r) ← boundedDigits? 2 0 59 (← expect? ':' r)
  let (_, r) ← boundedDigits? 2 0 60 (← expect? ':' r)
  return skipSecondFraction r

/-- The text behind an offset. -/
def skipOffset? (s : List Char) : Option (List Char) :=
  match s with
  | [] => none
  | c :: r =>
    if c = 'Z' || c = 'z' then some r
    else if c = '+' || c = '-' then do
      let (_, r) ← boundedDigits? 2 0 23 r
      let (_, r) ← boundedDigits? 2 0 59 (← expect? ':' r)
      return r
    else none

/-- The text behind a time and an offset that follow a date, as far as they do. -/
def skipTimeOfDate (s : List Char) : List Char :=
  match s with
  | [] => []
  | c :: r =>
    if c = 'T' || c = 't' || c = ' ' then
      match skipTime? r with
      | none => s
      | some r => (skipOffset? r).getD r
    else s

/-- The text behind a moment. -/
def skipMoment? (s : List Char) : Option (List Char) :=
  match skipDate? s with
  | some r => some (skipTimeOfDate r)
  | none => skipTime? s

end LuaBindings.Toml
