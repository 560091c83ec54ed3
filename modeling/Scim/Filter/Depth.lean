import Scim.Value.Display

/-!
Limits of nesting.  A limit may be asked for as any number from 1 to 100, whole or not; messages show it as
it was given.
-/

namespace Scim.Filter

/-- The nesting that is allowed unless something else is asked for. -/
def defaultDepth : Nat := 32

def greatestDepth : Nat := 100

structure DepthLimit where
  given : Value
  /-- The levels of nesting within the limit. -/
  levels : Nat
  levels_pos : 1 ≤ levels
  levels_le : levels ≤ greatestDepth

/-- Why a value is no limit of nesting. -/
inductive DepthFault
  | outOfRange
  | notANumber
  deriving DecidableEq, Repr

/-- The fault in words, where there are any. -/
def DepthFault.message? : DepthFault → Option String
  | .outOfRange => some ("'max_depth' must be between 1 and " ++ toString greatestDepth)
  | .notANumber => none

namespace DepthLimit

/-- A whole number of levels as a limit. -/
def ofNat (levels : Nat) (pos : 1 ≤ levels) (le : levels ≤ greatestDepth) : DepthLimit :=
  ⟨.integer levels, levels, pos, le⟩

def standard : DepthLimit := ofNat defaultDepth (by decide) (by decide)

def greatest : DepthLimit := ofNat greatestDepth (by decide) (by decide)

/-- The limit that a number sets; a fraction of a level allows nothing more. -/
def ofValue (v : Value) : Except DepthFault DepthLimit :=
  if !v.isNumeric then .error .notANumber
  else
    match v.point? with
    | some (.at units) =>
      let levels := (units / (Binary64.one : Int)).toNat
      if h : 1 ≤ levels ∧ levels ≤ greatestDepth ∧ units ≤ greatestDepth * (Binary64.one : Int) then
        .ok ⟨v, levels, h.1, h.2.1⟩
      else .error .outOfRange
    | _ => .error .outOfRange

/-- A whole number from 1 to 100 allows as many levels. -/
theorem ofValue_natCast (levels : Nat) (pos : 1 ≤ levels) (le : levels ≤ greatestDepth) :
    ofValue (.integer levels) = .ok (ofNat levels pos le) := by
  have one_pos : (0 : Int) < Binary64.one := Int.natCast_pos.2 Binary64.one_pos
  have quotient : (levels * (Binary64.one : Int) / Binary64.one).toNat = levels := by
    rw [Int.mul_ediv_cancel _ (Int.ne_of_gt one_pos), Int.toNat_natCast]
  have within : (levels : Int) * Binary64.one ≤ greatestDepth * (Binary64.one : Int) :=
    Int.mul_le_mul_of_nonneg_right (Int.ofNat_le.2 le) (Int.le_of_lt one_pos)
  simp only [ofValue, Value.isNumeric, Value.point?, LinePoint.ofInt, Bool.not_true, Bool.false_eq_true,
    if_false]
  rw [dif_pos ⟨by rwa [quotient], by rwa [quotient], within⟩]
  simp only [ofNat, quotient]

/-- The limit that is asked for; null asks for the usual one. -/
def requested (v : Value) : Except DepthFault DepthLimit :=
  if v.isNull then .ok standard else ofValue v

end DepthLimit

end Scim.Filter
