import LuaBindings.Decimal.Binary64
/-!
# Shortest decimals

The decimal with the fewest digits that still rounds to a given double, and of those the one
nearest to it. The decimals that round to a double fill an interval around it, and a grid of
decimals meets that interval iff one of the double's two neighbours on the grid lies in it; so the
grids are tried from the coarsest on.
-/

namespace LuaBindings.Decimal

/-- The number of decimal digits of a natural number. -/
def digitCount (n : Nat) : Nat := (Nat.toDigits 10 n).length

/-- The exponent of the leading decimal digit of a positive fraction. -/
def leadingExponent (num den : Nat) : Int :=
  if den ≤ num then (digitCount (num / den) : Int) - 1
  else
    let whole := den / num
    if den % num = 0 ∧ Nat.pow 10 (digitCount whole - 1) = whole then 1 - (digitCount whole : Int)
    else -(digitCount whole : Int)

namespace Binary64

/-- A decimal `digits · 10 ^ e` on the scale where `units · 2 ^ q` is `onBinary units`. -/
def onDecimal (q e : Int) (digits : Nat) : Nat :=
  digits * Nat.pow 10 e.toNat * Nat.pow 2 (-q).toNat

/-- A multiple of `2 ^ q` on the scale where `digits · 10 ^ e` is `onDecimal digits`. -/
def onBinary (q e : Int) (units : Nat) : Nat :=
  units * Nat.pow 2 q.toNat * Nat.pow 10 (-e).toNat

/-- The decimal that stands for a positive double among those with exponent `e`, if one does. -/
def decimalAt? (x : Binary64) (e : Int) : Option Nat :=
  let q := x.exponent - 2
  let value := onBinary q e (4 * x.mantissa)
  let above := onBinary q e (4 * x.mantissa + 2)
  let atPower := x.mantissa = Nat.pow 2 52 ∧ -1074 < x.exponent
  let below := onBinary q e (4 * x.mantissa - if atPower then 1 else 2)
  let near (digits : Nat) : Bool :=
    let point := onDecimal q e digits
    if x.mantissa % 2 = 0 then below ≤ point && point ≤ above
    else below < point && point < above
  let floor := value / onDecimal q e 1
  let ceiling := floor + 1
  let twice := onDecimal q e floor + onDecimal q e ceiling
  let lowerFirst : Bool := 2 * value < twice || (2 * value == twice && floor % 2 == 0)
  match near floor, near ceiling with
  | true, true => some (if lowerFirst then floor else ceiling)
  | true, false => some floor
  | false, true => some ceiling
  | false, false => none

/-- A positive double as digits and the exponent of the last of them, with as few digits as do. -/
def shortest (x : Binary64) : Nat × Int :=
  let leading := leadingExponent x.num x.den
  let exponents : List Int := (List.range 17).map fun (further : Nat) => leading - further
  match exponents.findSome? fun e => (x.decimalAt? e).map (·, e) with
  | some decimal => decimal
  | none => (x.mantissa, x.exponent)

end Binary64

/-- The text of an unsigned double: positional while its leading digit stands for `10 ^ -5` to
`10 ^ 15`, with a digit on each side of the point, and otherwise with a signed exponent. -/
def Binary64.text (x : Binary64) : String :=
  if x.mantissa = 0 then "0.0"
  else
    let (value, last) := x.shortest
    let written := Nat.toDigits 10 value
    let digits := (written.reverse.dropWhile (· = '0')).reverse
    let leading : Int := last + written.length - 1
    let body :=
      if -5 ≤ leading ∧ leading < 0 then
        ['0', '.'] ++ List.replicate (-leading - 1).toNat '0' ++ digits
      else if 0 ≤ leading ∧ leading ≤ 15 then
        let whole := leading.toNat + 1
        let fraction := digits.drop whole
        (digits ++ List.replicate (whole - digits.length) '0').take whole ++
          '.' :: if fraction.isEmpty then ['0'] else fraction
      else
        let fraction := digits.drop 1
        digits.take 1 ++ (if fraction.isEmpty then [] else '.' :: fraction) ++
          'e' :: (if 0 ≤ leading then '+' else '-') :: Nat.toDigits 10 leading.natAbs
    String.ofList body

end LuaBindings.Decimal
