import DispatchLayer.Toml.Text
import DispatchLayer.Toml.Value

/-!
# Numbers, dates and times

Integers have 64 bits. An underscore may stand between two digits, and a decimal integer has no
leading zeros. A date is checked against the calendar; a minute may have a sixty-first second.
-/

namespace DispatchLayer.Toml

open Reader

/-! ## Integers -/

/-- Digits of a class with underscores between them; the underscores are left out. -/
def digitGroups (isDigit : Char → Bool) : Reader (List Char) := do
  let first ← satisfy isDigit
  let more ← many (satisfy isDigit <|> (do char '_'; satisfy isDigit))
  return first :: more

/-- A sign, if there is one: whether it is a minus. -/
def sign : Reader Bool := do
  match ← attempt (satisfy fun c => c == '+' || c == '-') with
  | some c => return c == '-'
  | none => return false

/-- The digits of a decimal integer: a zero, or digits that do not start with one. -/
def decimalDigits : Reader (List Char) := do
  match ← peek with
  | '0' => do char '0'; return ['0']
  | _ => digitGroups Char.isDigit

/-- The greatest integer. -/
def maxInteger : Int := 0x7fffffffffffffff

/-- An integer that fits into 64 bits. -/
def bounded (n : Int) : Reader Scalar :=
  if -maxInteger - 1 ≤ n && n ≤ maxInteger then return .integer n else failure

/-- A decimal integer. -/
def decimalInteger : Reader Scalar := do
  let negative ← sign
  let n : Int := digitsValue 10 (← decimalDigits)
  bounded (if negative then -n else n)

/-- An integer in another base, after its mark. -/
def basedInteger (mark : Char) (base : Nat) : Reader Scalar := do
  word ['0', mark]
  bounded (digitsValue base (← digitGroups fun c => isHexDigit c && hexDigitValue c < base))

/-- An integer. -/
def integer : Reader Scalar :=
  basedInteger 'x' 16 <|> basedInteger 'o' 8 <|> basedInteger 'b' 2 <|> decimalInteger

/-! ## Floating-point numbers -/

/-- The digits after a point. -/
def fraction : Reader (List Char) := do
  char '.'
  digitGroups Char.isDigit

/-- The power of ten after an `e`. -/
def power : Reader Int := do
  let _ ← satisfy fun c => c == 'e' || c == 'E'
  let negative ← sign
  let n : Int := digitsValue 10 (← digitGroups Char.isDigit)
  return if negative then -n else n

/-- The double nearest to a decimal. One that is too great is refused, one that is too small without
bounds is the infinite. -/
def nearest (negative : Bool) (digits : List Char) (exponent : Int) : Reader FloatValue :=
  match Binary64.ofDecimal? (digitsValue 10 digits) exponent, negative with
  | some x, _ => return .finite negative x
  | none, true => return .infinite true
  | none, false => failure

/-- A number with a fraction or a power of ten. -/
def decimalFloat : Reader FloatValue := do
  let negative ← sign
  let whole ← decimalDigits
  match ← attempt fraction with
  | some places =>
    let exponent := (← attempt power).getD 0
    nearest negative (whole ++ places) (exponent - (places.length : Int))
  | none => nearest negative whole (← power)

/-- An infinity, or what is no number. -/
def specialFloat : Reader FloatValue := do
  let negative ← sign
  (do word ['i', 'n', 'f']; return .infinite negative) <|> (do word ['n', 'a', 'n']; return .nan)

/-- A floating-point number. -/
def float : Reader Scalar := do return .float (← decimalFloat <|> specialFloat)

/-! ## Dates and times -/

/-- A number of exactly so many digits, within bounds. -/
def digitsWithin (length low high : Nat) : Reader Nat := do
  let n := digitsValue 10 (← exactly length Char.isDigit)
  if low ≤ n && n ≤ high then return n else failure

/-- Days of a month. -/
def daysOf (year month : Nat) : Nat :=
  let isLeap := year % 4 = 0 && (year % 100 != 0 || year % 400 = 0)
  if month = 2 then if isLeap then 29 else 28
  else if [4, 6, 9, 11].contains month then 30
  else 31

/-- A date of the calendar. -/
def date : Reader Unit := do
  let year ← digitsWithin 4 0 9999
  char '-'
  let month ← digitsWithin 2 1 12
  char '-'
  let _ ← digitsWithin 2 1 (daysOf year month)

/-- A time of day. -/
def time : Reader Unit := do
  let _ ← digitsWithin 2 0 23
  char ':'
  let _ ← digitsWithin 2 0 59
  char ':'
  let _ ← digitsWithin 2 0 60
  let _ ← attempt do
    char '.'
    span1 Char.isDigit

/-- The offset of a time from the universal one. -/
def offset : Reader Unit :=
  (do let _ ← satisfy fun c => c == 'Z' || c == 'z') <|> do
    let _ ← satisfy fun c => c == '+' || c == '-'
    let _ ← digitsWithin 2 0 23
    char ':'
    let _ ← digitsWithin 2 0 59

/-- A date, a time, or both. -/
def moment : Reader Scalar := do
  let dateAndTime : Reader Unit := do
    date
    let _ ← attempt do
      let _ ← satisfy fun c => c == 'T' || c == 't' || c == ' '
      time
      let _ ← attempt offset
  dateAndTime <|> time
  return .moment

end DispatchLayer.Toml
