import Scim.Binary64
import Scim.DateTime
import Scim.Text.Lowercase

/-!
Values: JSON data, date-times, and the absence of a value.  Objects keep the order of their fields and
have each key once.
-/

namespace Scim

inductive Value
  /-- What reading an absent attribute gives. -/
  | missing
  | null
  | bool (b : Bool)
  | integer (i : Int)
  | decimal (d : Binary64)
  | string (s : String)
  | dateTime (t : DateTime)
  | list (items : List Value)
  | object (fields : List (String × Value))
  deriving Inhabited

/-- The fields of an object, in order. -/
abbrev Fields := List (String × Value)

namespace Value

/-- The name of the value's type in messages. -/
def typeName : Value → String
  | .missing => "MissingType"
  | .null => "NoneType"
  | .bool _ => "bool"
  | .integer _ => "int"
  | .decimal _ => "float"
  | .string _ => "str"
  | .dateTime _ => "datetime"
  | .list _ => "list"
  | .object _ => "dict"

def isMissing : Value → Bool
  | .missing => true
  | _ => false

def isNull : Value → Bool
  | .null => true
  | _ => false

def isObject : Value → Bool
  | .object _ => true
  | _ => false

mutual

/-- Whether a value is unassigned: absent, null, an empty string, or a list or object with nothing
assigned in it. -/
def isEmpty : Value → Bool
  | .missing => true
  | .null => true
  | .string s => s = ""
  | .list items => allEmpty items
  | .object fields => allFieldsEmpty fields
  | _ => false

def allEmpty : List Value → Bool
  | [] => true
  | v :: rest => v.isEmpty && allEmpty rest

def allFieldsEmpty : List (String × Value) → Bool
  | [] => true
  | (_, v) :: rest => v.isEmpty && allFieldsEmpty rest

end

/-- Where a truth value or number lies on the number line; `none` for other values, and for a number
that lies nowhere. -/
def point? : Value → Option LinePoint
  | .bool b => some (.ofInt (if b then 1 else 0))
  | .integer i => some (.ofInt i)
  | .decimal d => d.point?
  | _ => none

mutual

/-- Equality of values: numbers and truth values by their place on the number line, date-times by the
point in time, objects without regard to the order of fields. -/
def same : Value → Value → Bool
  | .missing, .missing => true
  | .null, .null => true
  | .string s, .string t => s = t
  | .dateTime t, .dateTime u => t.same u
  | .list xs, .list ys => sameItems xs ys
  | .object fs, .object gs => fs.length = gs.length && sameFields fs gs
  | v, w =>
    match v.point?, w.point? with
    | some p, some q => p = q
    | _, _ => false

def sameItems : List Value → List Value → Bool
  | [], [] => true
  | v :: vs, w :: ws => v.same w && sameItems vs ws
  | _, _ => false

def sameFields : List (String × Value) → List (String × Value) → Bool
  | [], _ => true
  | (k, v) :: rest, gs =>
    (match gs.lookup k with
      | some w => v.same w
      | none => false) && sameFields rest gs

end

/-- Whether two values have the same type and are equal. -/
def identical (v w : Value) : Bool :=
  v.typeName = w.typeName && v.same w

/-- Whether a value that is given for an option sets it: absence, null, false, zero, and an empty text, list
or object do not. -/
def isSet : Value → Bool
  | .missing => false
  | .null => false
  | .bool b => b
  | .integer i => i ≠ 0
  | .decimal d => d.point? ≠ some (.ofInt 0)
  | .string s => s ≠ ""
  | .dateTime _ => true
  | .list items => !items.isEmpty
  | .object fields => !fields.isEmpty

/-- Numbers and truth values can be ordered among each other. -/
def isNumeric : Value → Bool
  | .bool _ => true
  | .integer _ => true
  | .decimal _ => true
  | _ => false

/-- Whether the first value comes before the second; `none` if the two have no order. -/
def lt? : Value → Value → Option Bool
  | .string s, .string t => some (s < t)
  | .dateTime t, .dateTime u => t.lt? u
  | v, w =>
    if v.isNumeric && w.isNumeric then
      match v.point?, w.point? with
      | some p, some q => some (p.lt q)
      | _, _ => some false
    else none

/-- Whether a value can be the key of a table: all but lists and objects. -/
def isKey : Value → Bool
  | .list _ => false
  | .object _ => false
  | _ => true

end Value

namespace Fields

/-- The keys in order. -/
def keys (fields : Fields) : List String :=
  fields.map (·.1)

/-- The key spelled `preferred`, else the first key that has the lower-case form `folded`. -/
def keyLike? (preferred folded : String) (fields : Fields) : Option String :=
  if (fields.lookup preferred).isSome then some preferred
  else (keys fields).find? fun key => Text.lower key = folded

/-- The key for a name: the name itself, else the first key that differs from it in case only. -/
def key? (name : String) (fields : Fields) : Option String :=
  keyLike? name (Text.lower name) fields

def value (key : String) (fields : Fields) : Value :=
  (fields.lookup key).getD .missing

/-- Removes the field of a key. -/
def erase (key : String) (fields : Fields) : Fields :=
  fields.filter fun field => field.1 ≠ key

/-- Exchanges the value of a key where it stands, or adds the field at the end. -/
def insert (key : String) (v : Value) : Fields → Fields
  | [] => [(key, v)]
  | field :: rest => if field.1 = key then (key, v) :: rest else field :: insert key v rest

end Fields

namespace Value

/-- The value that an object holds under a name, whatever its case. -/
def get (name : String) : Value → Value
  | .object fields =>
    match Fields.key? name fields with
    | some key => Fields.value key fields
    | none => .missing
  | _ => .missing

/-- Follows names through nested objects. -/
def getPath : List String → Value → Value
  | [], v => v
  | name :: rest, v => getPath rest (v.get name)

end Value

end Scim
