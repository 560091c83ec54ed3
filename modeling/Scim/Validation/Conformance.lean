import Scim.Attribute.Canonical
import Scim.Issue
import Scim.ResourceType
import Scim.Validation.Required

/-!
Values of the wrong type, at any depth.  Unassigned values are of every type.
-/

namespace Scim

namespace Attribute

/-- Whether a value has the wrong number of items: a list stands for many values and nothing else does. -/
def cardinalityMessage? (a : Attribute) (v : Value) : Option String :=
  match a.multiValued, v with
  | true, .list _ => none
  | true, _ => some ("expected list of '" ++ a.type.name ++ "' values")
  | false, .list _ => some "expected single value, got list"
  | false, _ => none

def typeMessage (a : Attribute) (v : Value) : String :=
  "expected '" ++ a.type.name ++ "' value, got " ++ Text.quoted v.typeName

/-- Collects the issues of several places, in order. -/
def issuesOfEach {α : Type} (check : α → Except ValueFault (List Issue)) :
    List α → Except ValueFault (List Issue)
  | [] => .ok []
  | x :: rest => do
    let issues ← check x
    return issues ++ (← issuesOfEach check rest)

/-- The issues of a value from those of its items. -/
def typeIssuesBy (a : Attribute) (check : String → Value → Except ValueFault (List Issue)) (path : String)
    (v : Value) : Except ValueFault (List Issue) :=
  match a.cardinalityMessage? v with
  | some message => .ok [⟨path, .type, message⟩]
  | none => issuesOfEach (fun (itemPath, item) => check itemPath item) (a.itemsAt path v)

mutual

/-- The issues of a single value. -/
def typeIssuesOfItem : Attribute → String → Value → Except ValueFault (List Issue)
  | ⟨name, type, multiValued, required, mutability, uniqueness, returned, caseExact, description,
      canonicalValues, referenceTypes, subAttributes, schema⟩, path, v =>
    let a : Attribute := ⟨name, type, multiValued, required, mutability, uniqueness, returned, caseExact,
      description, canonicalValues, referenceTypes, subAttributes, schema⟩
    if v.isEmpty then .ok []
    else do
      if ← a.accepts v then
        if type = .complex then typeIssuesOfParts subAttributes path v else return []
      else return [⟨path, .type, a.typeMessage v⟩]

/-- The issues of the values that an object holds for some attributes. -/
def typeIssuesOfParts : List Attribute → String → Value → Except ValueFault (List Issue)
  | [], _, _ => .ok []
  | a :: rest, path, v => do
    let issues ←
      if (a.valueIn v).isEmpty then pure []
      else typeIssuesBy a (fun p item => typeIssuesOfItem a p item) (subPath path a) (a.valueIn v)
    return issues ++ (← typeIssuesOfParts rest path v)

end

/-- The issues of a value of the attribute. -/
def typeIssues (a : Attribute) (path : String) (v : Value) : Except ValueFault (List Issue) :=
  if v.isEmpty then .ok [] else typeIssuesBy a a.typeIssuesOfItem path v

end Attribute

/-- What is not of the attribute's type. -/
def ResourceType.typeIssues (rt : ResourceType) (data : Fields) (a : Attribute) :
    Except ValueFault (List Issue) :=
  a.typeIssues (rt.attributeKey a) (rt.valueOf a (.object data))

end Scim
