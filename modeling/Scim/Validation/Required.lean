import Scim.Issue
import Scim.ResourceType
import Scim.Validation.Submission

/-!
Required attributes and sub-attributes.  What clients cannot write is not required of them.
-/

namespace Scim

namespace Attribute

/-- The single values in a value of the attribute, each with its path. -/
def itemsAt (a : Attribute) (path : String) (v : Value) : List (String × Value) :=
  match a.multiValued, v with
  | true, .list items => items.mapIdx fun i item => (path ++ "[" ++ toString i ++ "]", item)
  | _, _ => [(path, v)]

/-- Whether clients must assign the attribute. -/
def isDemanded (a : Attribute) : Bool :=
  a.required && a.mutability ≠ .readOnly

def subPath (path : String) (sub : Attribute) : String :=
  path ++ "." ++ sub.name.text

/-- The required sub-attributes that an object at a path lacks. -/
def missingSubs (a : Attribute) (path : String) (item : Value) : List Issue :=
  match item with
  | .object _ =>
    (a.subAttributes.filter fun sub => sub.isDemanded && (sub.valueIn item).isEmpty).map fun sub =>
      ⟨subPath path sub, .required, "required sub-attribute is missing"⟩
  | _ => []

end Attribute

/-- Whether a value is as good as no value for a required attribute: an absent one, unless the payload is
a patch. -/
def Submission.lacks (s : Submission) (v : Value) : Bool :=
  match s with
  | .create _ => v.isEmpty
  | .patch _ => v.isEmpty && !v.isMissing

def Submission.lackMessage : Submission → String
  | .create _ => "required attribute is missing"
  | .patch _ => "required attribute can not be removed"

/-- What is missing in an attribute. -/
def ResourceType.requiredIssues (rt : ResourceType) (s : Submission) (data : Fields) (a : Attribute) :
    List Issue :=
  let v := rt.valueOf a (.object data)
  let path := rt.attributeKey a
  if a.mutability = .readOnly then []
  else if a.required && s.lacks v then [⟨path, .required, s.lackMessage⟩]
  else if !a.isComplex || v.isEmpty then []
  else (a.itemsAt path v).flatMap fun (itemPath, item) => a.missingSubs itemPath item

end Scim
