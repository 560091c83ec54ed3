import Scim.Attribute
import Scim.DateTime.Reader
import Scim.Text.Base64
import Scim.Text.Opaque

/-!
The values that an attribute accepts, and the form in which they are compared: date-times as points in
time, decimals as binary64 numbers, texts as opaque strings, in lower case unless case counts.
-/

namespace Scim

/-- Why a value cannot be read or compared as one of the attribute's type. -/
inductive ValueFault
  /-- Neither a date-time nor a text that could be one. -/
  | notDateTime (v : Value)
  | malformedDateTime
  | disallowed (e : Text.DisallowedText)
  /-- An integer too large for a binary64 number. -/
  | overflow
  /-- A binary value with characters outside ASCII. -/
  | notAscii

/-- The fault in words, where there are any. -/
def ValueFault.message? : ValueFault → Option String
  | .notDateTime v => some (v.display ++ " is not valid dateTime")
  | .disallowed e => some ("DISALLOWED/" ++ e.reason.rule)
  | _ => none

/-- A final `Z` of either case stands for the offset zero. -/
def spellOffset (cs : List Char) : List Char :=
  match cs.getLast? with
  | some c => if c = 'Z' || c = 'z' then cs.dropLast ++ "+00:00".toList else cs
  | none => cs

/-- Reads a value as a date-time.  Without an offset it is taken to be in UTC. -/
def Value.toDateTime (v : Value) : Except ValueFault DateTime :=
  match v with
  | .dateTime t => .ok t.assumeUtc
  | .string s =>
    if s.toList.contains 'T' then
      match DateTime.read? (spellOffset s.toList) with
      | some t => .ok t.assumeUtc
      | none => .error .malformedDateTime
    else .error (.notDateTime v)
  | _ => .error (.notDateTime v)

/-- The form in which texts are compared. -/
def canonicalText (caseExact : Bool) (s : String) : Except Text.DisallowedText String := do
  let form ← Text.enforceOpaque s.toList
  return String.ofList (if caseExact then form else Text.lowerChars form)

/-- An integer as a decimal. -/
def nearestDecimal (i : Int) : Except ValueFault Value :=
  (Binary64.ofInt? i).elim (.error .overflow) fun d => .ok (.decimal d)

namespace Attribute

/-- The form in which a value of the attribute is compared. -/
def canonical (a : Attribute) (v : Value) : Except ValueFault Value :=
  match v with
  | .null => .ok .null
  | _ =>
    match a.type, v with
    | .dateTime, _ => v.toDateTime.map .dateTime
    | .decimal, .integer i => nearestDecimal i
    | .string, .string s => ((canonicalText a.caseExact s).map .string).mapError .disallowed
    | .reference, .string s => ((canonicalText a.caseExact s).map .string).mapError .disallowed
    | _, _ => .ok v

/-- Whether a single value is one of the attribute's type; the inside of complex values is not looked
at. -/
def accepts (a : Attribute) (v : Value) : Except ValueFault Bool :=
  match a.type, v with
  | .string, .string _ => .ok true
  | .reference, .string _ => .ok true
  | .binary, .string s =>
    if Text.isAscii s.toList then .ok (Text.isBase64 s.toList) else .error .notAscii
  | .boolean, .bool _ => .ok true
  | .integer, .integer _ => .ok true
  | .decimal, .integer _ => .ok true
  | .decimal, .decimal _ => .ok true
  | .dateTime, .string _ => .ok v.toDateTime.isOk
  | .dateTime, .dateTime _ => .ok true
  | .complex, .object _ => .ok true
  | _, _ => .ok false

end Attribute

end Scim
