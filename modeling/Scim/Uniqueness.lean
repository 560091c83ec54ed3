import Scim.Attribute.Canonical
import Scim.ResourceType

/-!
Attributes whose values must be unique, and the questions that settle whether a value is.
-/

namespace Scim

/-- The question whether a value of an attribute is in use. -/
structure UniquenessQuery where
  /-- The resource type to look at; all of them if there is none. -/
  scope : Option String
  key : String
  value : Value
  /-- The record that is left out, if there is one. -/
  excluding : Option Value

namespace Attribute

/-- Whether values of the attribute must be unique. -/
def isUnique (a : Attribute) : Bool :=
  a.uniqueness ≠ .none && !a.isComplex

end Attribute

/-- The resource type in which values of an attribute must be unique; `none` stands for all. -/
def ResourceType.uniquenessScope (rt : ResourceType) (a : Attribute) : Option String :=
  if a.uniqueness = .server then some rt.name else none

/-- The question about an attribute's value in a resource, if there is one to ask. -/
def ResourceType.uniquenessQuery? (rt : ResourceType) (excluding : Option Value) (data : Value)
    (a : Attribute) : Option UniquenessQuery :=
  if a.isUnique && !(rt.valueOf a data).isEmpty then
    some
      { scope := rt.uniquenessScope a
        key := rt.attributeKey a
        value := rt.valueOf a data
        excluding }
  else none

end Scim
