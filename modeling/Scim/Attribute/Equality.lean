import Scim.Attribute.Canonical

/-!
Equality of an attribute's values.  Lists of a multi-valued attribute are equal if their items pair off;
complex values are equal if all sub-attributes are, where two unassigned ones count as equal.
-/

namespace Scim.Attribute

/-- Takes the first item that `equal` accepts out of a list. -/
def takeEqual (equal : Value → Except ValueFault Bool) :
    List Value → Except ValueFault (Option (List Value))
  | [] => .ok none
  | w :: rest => do
    if ← equal w then return some rest
    else return (← takeEqual equal rest).map (w :: ·)

/-- Whether every item of the first list pairs off with one of the second. -/
def pairOff (equal : Value → Value → Except ValueFault Bool) :
    List Value → List Value → Except ValueFault Bool
  | [], _ => .ok true
  | v :: rest, ws => do
    match ← takeEqual (equal v) ws with
    | some left => pairOff equal rest left
    | none => return false

/-- Equality of all values of an attribute from the equality of single ones. -/
def equalBy (multiValued : Bool) (equal : Value → Value → Except ValueFault Bool) (v w : Value) :
    Except ValueFault Bool :=
  match multiValued, v, w with
  | true, .list vs, .list ws => if vs.length = ws.length then pairOff equal vs ws else .ok false
  | _, _, _ => equal v w

/-- Equality of simple values by their canonical forms; values that have none are compared as they are. -/
def equalSimple (a : Attribute) (v w : Value) : Except ValueFault Bool :=
  match a.canonical v with
  | .ok x =>
    match a.canonical w with
    | .ok y => .ok (x.same y)
    | .error .overflow => .error .overflow
    | .error _ => .ok (v.same w)
  | .error .overflow => .error .overflow
  | .error _ => .ok (v.same w)

mutual

/-- Equality of single values. -/
def equalItems : Attribute → Value → Value → Except ValueFault Bool
  | ⟨name, type, multiValued, required, mutability, uniqueness, returned, caseExact, description,
      canonicalValues, referenceTypes, subAttributes, schema⟩, v, w =>
    match type, v, w with
    | .complex, .object _, .object _ => equalSubAttributes subAttributes v w
    | _, _, _ =>
      equalSimple ⟨name, type, multiValued, required, mutability, uniqueness, returned, caseExact,
        description, canonicalValues, referenceTypes, subAttributes, schema⟩ v w

def equalSubAttributes : List Attribute → Value → Value → Except ValueFault Bool
  | [], _, _ => .ok true
  | a :: rest, v, w =>
    if (a.valueIn v).isEmpty && (a.valueIn w).isEmpty then equalSubAttributes rest v w
    else do
      if ← equalBy a.multiValued (fun x y => equalItems a x y) (a.valueIn v) (a.valueIn w) then
        equalSubAttributes rest v w
      else return false

end

/-- Whether two values of the attribute are equal. -/
def equal (a : Attribute) (v w : Value) : Except ValueFault Bool :=
  equalBy a.multiValued a.equalItems v w

end Scim.Attribute
