import Scim.Binary64

/-!
The shortest decimal that reads back as a given binary64 number.
-/

namespace Scim.Binary64

-- `^` is the power of the core library, whatever else is in scope.
attribute [local instance (high)] instPowNat

/-- The magnitude `units` is exactly `exactDigits units * 10 ^ (-1074)`. -/
def exactDigits (units : Nat) : Nat :=
  units * 5 ^ (1074 : Nat)

/-- The two multiples of `step` next to a value, in units of `step`: the nearer first, and of two equally
near ones the even one. -/
def neighbours (value step : Nat) : List Nat :=
  let below := value / step
  let rest := 2 * (value % step)
  if rest < step || (rest = step && below % 2 = 0) then [below, below + 1] else [below + 1, below]

/-- The decimal of `count` digits that reads back as `units`, if there is one: the nearest to the exact
value.  `size` is the number of exact digits. -/
def decimalOfLength? (units size count : Nat) : Option (Nat × Int) :=
  let exponent : Int := (size : Int) - count - 1074
  let candidates := neighbours (exactDigits units) (10 ^ (size - count))
  (candidates.find? fun digits => decimalUnits? digits exponent = some units).map (·, exponent)

/-- The digits and the exponent of the shortest decimal that reads back as the magnitude `units`. -/
def shortest (units : Nat) : Nat × Int :=
  let size := (Nat.toDigits 10 (exactDigits units)).length
  ((List.range 17).findSome? fun i => decimalOfLength? units size (i + 1)).getD (exactDigits units, -1074)

/-- How a format writes finite numbers and names the others. -/
structure NumberFormat where
  /-- The least and greatest decimal exponent that is written without exponent notation. -/
  leastPlain : Int
  greatestPlain : Int
  nan : String
  infinity : String

/-- Digits in exponent notation: one digit, the others behind a point, and an exponent of at least two
digits with its sign. -/
def scientific (digits : List Char) (exponent : Int) : List Char :=
  let mantissa :=
    match digits with
    | [] => ['0']
    | [d] => [d]
    | d :: rest => d :: '.' :: rest
  let size := Nat.toDigits 10 exponent.natAbs
  let padded := if size.length < 2 then '0' :: size else size
  mantissa ++ ['e', if exponent < 0 then '-' else '+'] ++ padded

/-- Digits in plain notation; there is always a digit on each side of the point. -/
def plain (digits : List Char) (exponent : Int) : List Char :=
  if exponent < 0 then
    '0' :: '.' :: List.replicate (exponent.natAbs - 1) '0' ++ digits
  else
    let before := exponent.toNat + 1
    if digits.length ≤ before then
      digits ++ List.replicate (before - digits.length) '0' ++ ['.', '0']
    else digits.take before ++ '.' :: digits.drop before

/-- Digits without the zeros at their end. -/
def stripZeros (digits : List Char) : List Char :=
  (digits.reverse.dropWhile (· = '0')).reverse

/-- The text of `value * 10 ^ scale`. -/
def decimalText (format : NumberFormat) (value : Nat) (scale : Int) : List Char :=
  let all := Nat.toDigits 10 value
  let exponent : Int := scale + all.length - 1
  if format.leastPlain ≤ exponent ∧ exponent ≤ format.greatestPlain then plain (stripZeros all) exponent
  else scientific (stripZeros all) exponent

def magnitudeText (format : NumberFormat) (units : Nat) : List Char :=
  if units = 0 then ['0', '.', '0']
  else
    let decimal := shortest units
    decimalText format decimal.1 decimal.2

def text (format : NumberFormat) : Binary64 → String
  | .finite negative units _ =>
    String.ofList (if negative then '-' :: magnitudeText format units else magnitudeText format units)
  | .infinity negative => if negative then "-" ++ format.infinity else format.infinity
  | .nan => format.nan

/-- Numbers in messages: plain notation from `0.0001` up to below `10^16`. -/
def messageFormat : NumberFormat := ⟨-4, 15, "nan", "inf"⟩

/-- Numbers in JSON texts differ from those in messages only by the names of those that are not
finite. -/
def jsonFormat : NumberFormat := ⟨-4, 15, "NaN", "Infinity"⟩

end Scim.Binary64
