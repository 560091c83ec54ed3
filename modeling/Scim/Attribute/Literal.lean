import Scim.Attribute.Canonical
import Scim.Text.Digit
import Scim.Text.Number

/-!
Literals of filters as values of an attribute's type.
-/

namespace Scim

/-- Why a literal is no value of an attribute's type. -/
inductive LiteralFault
  | expected (what : String) (v : Value)
  | outOfRange (v : Value)
  | incomparable (type : AttributeType)
  | tooManyDigits
  | value (f : ValueFault)

/-- The fault in words, where there are any. -/
def LiteralFault.message? : LiteralFault → Option String
  | .expected what v => some ("expected " ++ what ++ ", got " ++ v.display)
  | .outOfRange v => some ("decimal " ++ v.display ++ " is out of range")
  | .incomparable type =>
    some ("literal can not be compared with '" ++ type.name ++ "' attribute")
  | .tooManyDigits => none
  | .value f => f.message?

namespace Attribute

/-- A text that spells an integer or a decimal. -/
def numberText? (s : String) : Option Text.NumberText :=
  Text.readNumber? Text.isDecimalDigit s.toList

def toInteger (v : Value) : Except LiteralFault Value :=
  match v with
  | .integer _ => .ok v
  | .decimal d =>
    match d.toInt? with
    | some i => .ok (.integer i)
    | none => .error (.expected "integer" v)
  | .string s =>
    match numberText? s with
    | some number =>
      if number.isWhole then
        match number.toInt? with
        | some i => .ok (.integer i)
        | none => .error .tooManyDigits
      else .error (.expected "integer" v)
    | none => .error (.expected "integer" v)
  | _ => .error (.expected "integer" v)

def toDecimal (v : Value) : Except LiteralFault Value :=
  let finite (d : Binary64) : Except LiteralFault Value :=
    if d.isFinite then .ok (.decimal d) else .error (.outOfRange v)
  match v with
  | .integer i => (Binary64.ofInt? i).elim (.error (.outOfRange v)) fun d => .ok (.decimal d)
  | .decimal d => finite d
  | .string s =>
    match numberText? s with
    | some number => finite number.toBinary64
    | none => .error (.expected "decimal" v)
  | _ => .error (.expected "decimal" v)

def toBoolean (v : Value) : Except LiteralFault Value :=
  match v with
  | .bool _ => .ok v
  | .string s =>
    if s = "true" then .ok (.bool true)
    else if s = "false" then .ok (.bool false)
    else .error (.expected "boolean" v)
  | _ => .error (.expected "boolean" v)

def toBinary (a : Attribute) (v : Value) : Except LiteralFault Value :=
  match v with
  | .string _ => do
    if ← (a.accepts v).mapError .value then return v
    else .error (.expected "base64-encoded string" v)
  | _ => .error (.expected "base64-encoded string" v)

def toText (v : Value) : Except LiteralFault Value :=
  match v with
  | .string _ => .ok v
  | _ => .error (.expected "string" v)

/-- The literal as a value of the attribute's type.  The null literal belongs to every type. -/
def literal (a : Attribute) (v : Value) : Except LiteralFault Value :=
  match v with
  | .null => .ok .null
  | _ =>
    match a.type with
    | .string => toText v
    | .reference => toText v
    | .binary => a.toBinary v
    | .boolean => toBoolean v
    | .integer => toInteger v
    | .decimal => toDecimal v
    | .dateTime => (v.toDateTime.map .dateTime).mapError .value
    | .complex => .error (.incomparable a.type)

end Attribute

end Scim
