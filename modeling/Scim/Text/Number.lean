import Scim.Binary64
import Scim.Text.Digit

/-!
Numbers as they stand in texts: an optional minus, digits without a leading zero, and optionally a
fraction and an exponent.
-/

namespace Scim.Text

structure NumberText where
  negative : Bool
  whole : List Char
  /-- The digits behind the point, if there is one. -/
  fraction : List Char
  /-- Whether the exponent is negative, and its digits. -/
  exponent : Option (Bool × List Char)
  deriving DecidableEq, Repr

namespace NumberText

/-- A number with neither fraction nor exponent is an integer. -/
def isWhole (n : NumberText) : Bool :=
  n.fraction.isEmpty && n.exponent.isNone

/-- Integers of more digits are not converted. -/
def greatestSize : Nat := 4300

/-- The integer that the number without its fraction and exponent is; `none` if it has too many digits. -/
def toInt? (n : NumberText) : Option Int :=
  if greatestSize < n.whole.length then none
  else
    let size : Int := natOfDigits n.whole
    some (if n.negative then -size else size)

def exponentValue (n : NumberText) : Int :=
  match n.exponent with
  | none => 0
  | some (negative, digits) =>
    let size : Int := natOfDigits digits
    if negative then -size else size

/-- The binary64 number nearest to the number. -/
def toBinary64 (n : NumberText) : Binary64 :=
  Binary64.ofDecimal n.negative (natOfDigits (n.whole ++ n.fraction)) (n.exponentValue - n.fraction.length)

end NumberText

/-- The digits in front of the point: a single zero, or digits that start with another one. -/
def scanWhole? (isDigit : Char → Bool) : List Char → Option (List Char × List Char)
  | '0' :: rest => some (['0'], rest)
  | c :: rest =>
    if '1' ≤ c ∧ c ≤ '9' then some (c :: rest.takeWhile isDigit, rest.dropWhile isDigit) else none
  | [] => none

/-- A point with digits behind it; without digits the point is not read. -/
def scanFraction (isDigit : Char → Bool) (cs : List Char) : List Char × List Char :=
  match cs with
  | '.' :: rest =>
    let digits := rest.takeWhile isDigit
    if digits.isEmpty then ([], cs) else (digits, rest.dropWhile isDigit)
  | _ => ([], cs)

/-- An exponent; without digits nothing of it is read. -/
def scanExponent (isDigit : Char → Bool) (cs : List Char) : Option (Bool × List Char) × List Char :=
  match cs with
  | c :: rest =>
    if c = 'e' ∨ c = 'E' then
      let unsigned := if rest.head? = some '-' ∨ rest.head? = some '+' then rest.drop 1 else rest
      let digits := unsigned.takeWhile isDigit
      if digits.isEmpty then (none, cs)
      else (some (rest.head? = some '-', digits), unsigned.dropWhile isDigit)
    else (none, cs)
  | [] => (none, cs)

/-- Reads the longest number at the start of a text. -/
def scanNumber? (isDigit : Char → Bool) (cs : List Char) : Option (NumberText × List Char) := do
  let negative := cs.head? = some '-'
  let (whole, rest) ← scanWhole? isDigit (if negative then cs.drop 1 else cs)
  let (fraction, rest) := scanFraction isDigit rest
  let (exponent, rest) := scanExponent isDigit rest
  some (⟨negative, whole, fraction, exponent⟩, rest)

/-- Reads a number that takes the whole text. -/
def readNumber? (isDigit : Char → Bool) (cs : List Char) : Option NumberText :=
  match scanNumber? isDigit cs with
  | some (n, []) => some n
  | _ => none

end Scim.Text
