/-!
# Binary floating point, exactly

A finite non-negative double is a whole number times a power of two. Rounding a quotient to the
nearest double is done in whole numbers: the quotient is scaled so that its integer part has the
right number of bits, and the remainder decides, an exact half going to the even neighbour.
-/

namespace DispatchLayer

/-- The number `mantissa · 2 ^ exponent`. -/
structure Binary64 where
  mantissa : Nat
  exponent : Int
  deriving DecidableEq, Repr

namespace Binary64

/-- Bits of the mantissa. -/
def precision : Nat := 53

/-- The least exponent. -/
def minExponent : Int := -1074

/-- The greatest exponent. -/
def maxExponent : Int := 971

/-- A quotient of whole numbers that is scaled by a power of two. -/
def scaled (num den : Nat) (exponent : Int) : Nat × Nat :=
  if exponent < 0 then (num * Nat.pow 2 exponent.natAbs, den)
  else (num, den * Nat.pow 2 exponent.natAbs)

/-- The quotient to the nearest whole number, a half to the even one. -/
def roundHalfEven (num den : Nat) : Nat :=
  let q := num / den
  let twice := 2 * (num % den)
  if twice < den then q
  else if den < twice then q + 1
  else if q % 2 = 0 then q else q + 1

/-- The exponent at which the integer part of a positive quotient has the bits of a mantissa. -/
def exponentFor (num den : Nat) : Int :=
  let guess : Int := (num.log2 : Int) - den.log2 - (precision - 1)
  let (n, d) := scaled num den guess
  let exact := if n / d < Nat.pow 2 (precision - 1) then guess - 1 else guess
  max exact minExponent

/-- The double nearest to a quotient, if there is a finite one. -/
def ofRatio? (num den : Nat) : Option Binary64 :=
  if num = 0 then some ⟨0, minExponent⟩
  else
    let e := exponentFor num den
    let (n, d) := scaled num den e
    let m := roundHalfEven n d
    let rounded : Binary64 := if m = Nat.pow 2 precision then ⟨m / 2, e + 1⟩ else ⟨m, e⟩
    if maxExponent < rounded.exponent then none else some rounded

/-- The double nearest to `digits · 10 ^ exponent`, if there is a finite one. -/
def ofDecimal? (digits : Nat) (exponent : Int) : Option Binary64 :=
  let length : Int := (Nat.toDigits 10 digits).length
  if digits = 0 || length + exponent < -400 then some ⟨0, minExponent⟩
  else if 400 < length + exponent then none
  else if exponent < 0 then ofRatio? digits (Nat.pow 10 exponent.natAbs)
  else ofRatio? (digits * Nat.pow 10 exponent.natAbs) 1

end Binary64

end DispatchLayer
