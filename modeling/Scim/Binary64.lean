/-!
Binary64 numbers.  Every finite one is a whole number of units of `2^-1074`, so order, equality and
rounding are arithmetic on integers.
-/

namespace Scim

-- `^` is the power of the core library, whatever else is in scope.
attribute [local instance (high)] instPowNat

/-- A magnitude, in units of `2^-1074`, that a finite binary64 number can have: it is below `2^1024` and
has at most 53 significant bits. -/
def Representable (units : Nat) : Prop :=
  units < 2 ^ (2098 : Nat) ∧ units % 2 ^ (units.log2 - 52) = 0

instance (units : Nat) : Decidable (Representable units) :=
  inferInstanceAs (Decidable (_ ∧ _))

inductive Binary64
  | finite (negative : Bool) (units : Nat) (representable : Representable units)
  | infinity (negative : Bool)
  | nan

namespace Binary64

/-- The number of units in one. -/
def one : Nat := 2 ^ (1074 : Nat)

theorem one_pos : 0 < one := by
  simp only [one, Nat.two_pow_pos]

/-- The whole number nearest to `p / q`; of two equally near ones, the even one. -/
def divideToEven (p q : Nat) : Nat :=
  let whole := p / q
  let rest := 2 * (p % q)
  if rest < q then whole else if q < rest then whole + 1 else whole + whole % 2

/-- Rounds the magnitude `p / q` units to 53 significant bits, or to whole units where these are coarser. -/
def roundUnits (p q : Nat) : Nat :=
  let step := 2 ^ ((p / q).log2 - 52)
  divideToEven p (q * step) * step

/-- The number of this magnitude, or an infinity if it has none. -/
def ofUnits (negative : Bool) (units : Nat) : Binary64 :=
  if h : Representable units then .finite negative units h else .infinity negative

/-- The magnitude of `digits * 10 ^ exponent`, rounded; `none` above every finite number. -/
def decimalUnits? (digits : Nat) (exponent : Int) : Option Nat :=
  let places : Int := (Nat.toDigits 10 digits).length + exponent
  if digits = 0 ∨ places < -330 then some 0
  else if places > 310 then none
  else
    let units :=
      if exponent < 0 then roundUnits (digits * one) (10 ^ exponent.natAbs)
      else roundUnits (digits * 10 ^ exponent.toNat * one) 1
    if units < 2 ^ (2098 : Nat) then some units else none

/-- The number nearest to `± digits * 10 ^ exponent`; too large a magnitude gives an infinity. -/
def ofDecimal (negative : Bool) (digits : Nat) (exponent : Int) : Binary64 :=
  match decimalUnits? digits exponent with
  | some units => ofUnits negative units
  | none => .infinity negative

/-- The number nearest to an integer, if the integer is not too large. -/
def ofInt? (i : Int) : Option Binary64 :=
  match ofUnits (i < 0) (roundUnits (i.natAbs * one) 1) with
  | .finite negative units h => some (.finite negative units h)
  | _ => none

def isFinite : Binary64 → Bool
  | .finite .. => true
  | _ => false

/-- The signed number of units of a finite number. -/
def signedUnits (negative : Bool) (units : Nat) : Int :=
  if negative then -(units : Int) else units

/-- The integer that the number is, if it is one. -/
def toInt? : Binary64 → Option Int
  | .finite negative units _ =>
    if units % one = 0 then some (signedUnits negative (units / one)) else none
  | _ => none

instance : DecidableEq Binary64
  | .finite s u _, .finite s' u' _ =>
    if h : s = s' ∧ u = u' then
      isTrue (by obtain ⟨rfl, rfl⟩ := h; rfl)
    else isFalse (by rintro ⟨⟩; exact h ⟨rfl, rfl⟩)
  | .infinity s, .infinity s' =>
    if h : s = s' then isTrue (by rw [h]) else isFalse (by rintro ⟨⟩; exact h rfl)
  | .nan, .nan => isTrue rfl
  | .finite .., .infinity _ => isFalse (by rintro ⟨⟩)
  | .finite .., .nan => isFalse (by rintro ⟨⟩)
  | .infinity _, .finite .. => isFalse (by rintro ⟨⟩)
  | .infinity _, .nan => isFalse (by rintro ⟨⟩)
  | .nan, .finite .. => isFalse (by rintro ⟨⟩)
  | .nan, .infinity _ => isFalse (by rintro ⟨⟩)

end Binary64

/-- A point of the number line with its two ends, in units of `2^-1074`. -/
inductive LinePoint
  | below
  | at (units : Int)
  | above
  deriving DecidableEq

namespace LinePoint

def lt : LinePoint → LinePoint → Bool
  | .below, .below => false
  | .below, _ => true
  | .at a, .at b => a < b
  | .at _, .above => true
  | _, _ => false

end LinePoint

/-- Where a number lies on the line; a NaN lies nowhere, and both zeros at 0. -/
def Binary64.point? : Binary64 → Option LinePoint
  | .finite negative units _ => some (.at (Binary64.signedUnits negative units))
  | .infinity true => some .below
  | .infinity false => some .above
  | .nan => none

/-- Where an integer lies on the line. -/
def LinePoint.ofInt (i : Int) : LinePoint :=
  .at (i * Binary64.one)

end Scim
