import DispatchLayer.Decimal.Binary64

/-!
# The shortest decimal that reads back

Of the decimals that round to a double, the one with the fewest digits is written, and of several
such the nearest, or the greater of two equally near. For 1, 2, … digits the two neighbours of the
double on the grid of such decimals are tried, so the first hit is the shortest.
-/

namespace DispatchLayer

/-- The number `digits · 10 ^ exponent`. -/
structure Decimal where
  digits : Nat
  exponent : Int
  deriving DecidableEq, Repr

namespace Binary64

/-- A quotient of whole numbers equal to the double, with a numerator that four divides. -/
def ratio (x : Binary64) : Nat × Nat :=
  if x.exponent < 0 then (4 * x.mantissa, 4 * Nat.pow 2 x.exponent.natAbs)
  else (4 * (x.mantissa * Nat.pow 2 x.exponent.natAbs), 4)

/-- The numerators at which the reals that round to the double begin and end, over the denominator
of its ratio. Just above a power of two the step below is half as wide. -/
def bounds (x : Binary64) : Nat × Nat :=
  let num := x.ratio.1
  let step := if x.exponent < 0 then 4 else 4 * Nat.pow 2 x.exponent.natAbs
  let below :=
    if x.mantissa = Nat.pow 2 (precision - 1) && x.exponent != minExponent then step / 4
    else step / 2
  (num - below, num + step / 2)

/-- Whether the quotient rounds to the double. The bounds do so for an even mantissa. -/
def roundsTo (x : Binary64) (num den : Nat) : Bool :=
  let (low, high) := x.bounds
  let scale := x.ratio.2
  let value := num * scale
  if x.mantissa % 2 = 0 then low * den ≤ value && value ≤ high * den
  else low * den < value && value < high * den

/-- The number of digits before the decimal point, or minus the number of zeros after it. -/
def magnitude (x : Binary64) : Int :=
  let (num, den) := x.ratio
  if den ≤ num then (Nat.toDigits 10 (num / den)).length
  else 1 - ((Nat.toDigits 10 ((den + num - 1) / num - 1)).length : Int)

/-- A decimal as a quotient of whole numbers. -/
def decimalRatio (d : Decimal) : Nat × Nat :=
  if d.exponent < 0 then (d.digits, Nat.pow 10 d.exponent.natAbs)
  else (d.digits * Nat.pow 10 d.exponent.natAbs, 1)

/-- The nearer neighbour of the double on the grid of a power of ten, of those that round to it. -/
def neighbour? (x : Binary64) (exponent : Int) : Option Decimal :=
  let (num, den) := x.ratio
  let (n, d) :=
    if exponent < 0 then (num * Nat.pow 10 exponent.natAbs, den)
    else (num, den * Nat.pow 10 exponent.natAbs)
  let fits := fun digits =>
    let r := decimalRatio ⟨digits, exponent⟩
    x.roundsTo r.1 r.2
  let low := n / d
  match fits low, fits (low + 1) with
  | true, true => some (if 2 * (n % d) < d then ⟨low, exponent⟩ else nextUp low)
  | true, false => some ⟨low, exponent⟩
  | false, true => some (nextUp low)
  | false, false => none
where
  /-- The neighbour above, which may be a power of ten with a digit too many. -/
  nextUp (low : Nat) : Decimal :=
    if (low + 1) % 10 = 0 then ⟨(low + 1) / 10, exponent + 1⟩ else ⟨low + 1, exponent⟩

/-- Seventeen digits always read back. -/
def maxDigits : Nat := 17

/-- The shortest decimal that rounds to the double. -/
def shortest (x : Binary64) : Decimal :=
  if x.mantissa = 0 then ⟨0, 0⟩
  else
    let grids := (List.range maxDigits).map fun (k : Nat) => x.magnitude - ((k + 1 : Nat) : Int)
    (grids.filterMap x.neighbour?).headD ⟨0, 0⟩

end Binary64

/-- The decimal in positional notation, with a point and at least one digit on both sides of it. -/
def Decimal.text (d : Decimal) : String :=
  let digits := Nat.toDigits 10 d.digits
  if 0 ≤ d.exponent then
    String.ofList (digits ++ List.replicate d.exponent.natAbs '0') ++ ".0"
  else
    let places := d.exponent.natAbs
    let padded := List.replicate (places + 1 - digits.length) '0' ++ digits
    let whole := padded.take (padded.length - places)
    let fraction := padded.drop (padded.length - places)
    String.ofList whole ++ "." ++ String.ofList fraction

end DispatchLayer
