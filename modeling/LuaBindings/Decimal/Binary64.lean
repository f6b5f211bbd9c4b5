/-!
# Double precision

Finite doubles without a sign, in exact arithmetic: a mantissa of at most 53 bits times a power of
two that is at least `2 ^ -1074`. Products and quotients are formed as fractions and rounded once,
to the nearest double, a tie going to the one with the even mantissa.
-/

namespace LuaBindings.Decimal

/-- The double `mantissa · 2 ^ exponent`. -/
structure Binary64 where
  mantissa : Nat
  exponent : Int
  deriving DecidableEq, Repr

namespace Binary64

/-- The integer nearest to a fraction, a half going to the even neighbour. -/
def roundHalfEven (num den : Nat) : Nat :=
  let floor := num / den
  let excess := 2 * (num % den)
  if excess < den then floor
  else if den < excess then floor + 1
  else floor + floor % 2

/-- The double nearest to `num / den`, unless that is beyond the largest one. -/
def ofRatio? (num den : Nat) : Option Binary64 :=
  if num = 0 then some ⟨0, -1074⟩
  else
    let guess : Int := (num.log2 : Int) - den.log2
    let reached := den * Nat.pow 2 guess.toNat ≤ num * Nat.pow 2 (-guess).toNat
    let magnitude := if reached then guess else guess - 1
    let exponent := max (magnitude - 52) (-1074)
    let mantissa := roundHalfEven (num * Nat.pow 2 (-exponent).toNat)
      (den * Nat.pow 2 exponent.toNat)
    let rounded : Binary64 :=
      if mantissa = Nat.pow 2 53 then ⟨Nat.pow 2 52, exponent + 1⟩ else ⟨mantissa, exponent⟩
    if 971 < rounded.exponent then none else some rounded

/-- The numerator of the fraction that a double is. -/
def num (x : Binary64) : Nat := x.mantissa * Nat.pow 2 x.exponent.toNat

/-- The denominator of the fraction that a double is. -/
def den (x : Binary64) : Nat := Nat.pow 2 (-x.exponent).toNat

/-- The double nearest to a product. -/
def mul? (x y : Binary64) : Option Binary64 := ofRatio? (x.num * y.num) (x.den * y.den)

/-- The double nearest to a quotient. -/
def div? (x y : Binary64) : Option Binary64 := ofRatio? (x.num * y.den) (x.den * y.num)

/-- The double nearest to `10 ^ power`. -/
def tenTo? (power : Nat) : Option Binary64 := ofRatio? (Nat.pow 10 power) 1

end Binary64

end LuaBindings.Decimal
