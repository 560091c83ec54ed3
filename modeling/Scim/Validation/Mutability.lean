import Scim.Attribute.Equality
import Scim.Issue
import Scim.ResourceType
import Scim.Validation.Submission

/-!
Read-only values, which are dropped from payloads, and immutable ones, which a patch may not change.
-/

namespace Scim

namespace Attribute

/-- Changes the single values in a value of the attribute. -/
def mapItems (multiValued : Bool) (change : Value → Value) (v : Value) : Value :=
  match multiValued, v with
  | true, .list items => .list (items.map change)
  | _, _ => change v

mutual

/-- A single value of the attribute without its read-only parts. -/
def withoutReadOnly : Attribute → Value → Value
  | ⟨_, _, _, _, _, _, _, _, _, _, _, subAttributes, _⟩, v =>
    match v with
    | .object fields => .object (dropReadOnlyParts subAttributes fields)
    | _ => v

/-- An object without the read-only ones of some attributes and read-only parts of the others. -/
def dropReadOnlyParts : List Attribute → Fields → Fields
  | [], fields => fields
  | a :: rest, fields =>
    dropReadOnlyParts rest
      (match a.key? fields with
        | none => fields
        | some key =>
          if a.mutability = .readOnly then Fields.erase key fields
          else if a.isComplex && !(Fields.value key fields).isEmpty then
            Fields.insert key
              (mapItems a.multiValued (fun v => withoutReadOnly a v) (Fields.value key fields)) fields
          else fields)

end

end Attribute

/-- A resource without the attribute if that is read-only, or without its read-only parts. -/
def ResourceType.dropReadOnly (rt : ResourceType) (a : Attribute) (data : Fields) : Fields :=
  rt.changeHolder a (Attribute.dropReadOnlyParts [a]) data

/-- Whether an immutable attribute of a resource would change. -/
def Attribute.changes (a : Attribute) (current v : Value) : Except ValueFault Bool :=
  if v.isMissing || current.isEmpty then .ok false
  else if v.isEmpty then .ok true
  else (a.equal v current).map (!·)

/-- Whether the payload may not have the value that it has for the attribute. -/
def ResourceType.mutabilityIssues (rt : ResourceType) (s : Submission) (data : Fields) (a : Attribute) :
    Except ValueFault (List Issue) :=
  match a.mutability, s with
  | .immutable, .patch existing => do
    if ← a.changes (rt.valueOf a existing) (rt.valueOf a (.object data)) then
      return [⟨rt.attributeKey a, .mutability, "immutable attribute can not be changed"⟩]
    else return []
  | _, _ => .ok []

end Scim
