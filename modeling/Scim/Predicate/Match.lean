import Scim.Attribute.Canonical
import Scim.Predicate
import Scim.Search
import Scim.Text.Pieces

/-!
Which records satisfy a predicate.  Values that are not of their attribute's type satisfy no comparison.
-/

namespace Scim

/-- Why it cannot be said whether a record satisfies a predicate. -/
inductive MatchFault
  | value (f : ValueFault)
  /-- A value without a beginning or end is compared with `sw` or `ew`. -/
  | notText
  /-- A negation of nothing. -/
  | noOperand

namespace Operator

/-- Whether a value holds another: a text a part, an object a key. -/
def holds (v w : Value) : Bool :=
  match v, w with
  | .string s, .string t => Text.occursIn t.toList s.toList
  | .object fields, .string key => (fields.lookup key).isSome
  | _, _ => false

def textTest (test : List Char → List Char → Bool) (v w : Value) : Except MatchFault Bool :=
  match v, w with
  | .string s, .string t => .ok (test t.toList s.toList)
  | .string _, _ => .ok false
  | _, _ => .error .notText

/-- Compares two values in canonical form.  Values without an order are neither before nor behind each
other. -/
def compare (operator : Operator) (v w : Value) : Except MatchFault Bool :=
  match operator with
  | .eq => .ok (v.same w)
  | .ne => .ok (!v.same w)
  | .co => .ok (holds v w)
  | .sw => textTest List.isPrefixOf v w
  | .ew => textTest List.isSuffixOf v w
  | .gt => .ok ((w.lt? v).getD false)
  | .ge => .ok ((w.lt? v).any fun before => before || v.same w)
  | .lt => .ok ((v.lt? w).getD false)
  | .le => .ok ((v.lt? w).any fun before => before || v.same w)

end Operator

/-- The canonical form of a value; values that have none take no part in comparisons. -/
def comparable (a : Attribute) (v : Value) : Except MatchFault (Option Value) :=
  match a.canonical v with
  | .ok x => .ok (some x)
  | .error .overflow => .error (.value .overflow)
  | .error _ => .ok none

/-- Whether an assigned value compares with a literal in canonical form. -/
def compareValue (a : Attribute) (operator : Operator) (literal v : Value) : Except MatchFault Bool := do
  if ← (a.accepts v).mapError .value then
    match ← comparable a v with
    | some x => operator.compare x literal
    | none => return false
  else return false

/-- Whether some value at a reference compares with a literal. -/
def matchCompare (ref : PropertyRef) (operator : Operator) (literal record : Value) :
    Except MatchFault Bool := do
  let values := ref.values record
  match literal with
  | .null => return if operator = .eq then values.isEmpty else !values.isEmpty
  | _ =>
    match ← comparable ref.attr literal with
    | none => return false
    | some form => anyItem (compareValue ref.attr operator form) values

namespace Predicate

mutual

/-- Whether a record satisfies a predicate.  Members of a chain behind the first that settles it are not
looked at. -/
def holdsOf : Predicate → Value → Except MatchFault Bool
  | .compare ref operator literal, record => matchCompare ref operator literal record
  | .present ref, record => .ok (!(ref.values record).isEmpty)
  | .logical .and children, record => allHold children record
  | .logical .or children, record => anyHolds children record
  | .logical .not [], _ => .error .noOperand
  | .logical .not (child :: _), record => (holdsOf child record).map (!·)
  | .anyElement ref inner, record =>
    anyItem (fun item => holdsOf inner item) ((ref.values record).filter Value.isObject)

def allHold : List Predicate → Value → Except MatchFault Bool
  | [], _ => .ok true
  | p :: rest, record => do
    if ← holdsOf p record then allHold rest record else return false

def anyHolds : List Predicate → Value → Except MatchFault Bool
  | [], _ => .ok false
  | p :: rest, record => do
    if ← holdsOf p record then return true else anyHolds rest record

end

end Predicate

end Scim
