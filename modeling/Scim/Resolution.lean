import Scim.ResourceType

/-!
Attribute paths read against a resource type.
-/

namespace Scim

/-- Why a path is not one of the resource type. -/
inductive PathFault
  | schemaInside
  | notComplex (name : AttrName)
  | simpleValuePath

def PathFault.message : PathFault → String
  | .schemaInside => "schema URI prefix is not allowed inside value path filter"
  | .notComplex name => "'" ++ name.text ++ "' is not complex and has no sub-attributes"
  | .simpleValuePath => "value path filter requires complex attribute"

inductive ResolutionError
  | unknownAttribute (path : AttrPath) (segment : String)
  | invalidPath (path : AttrPath) (fault : PathFault)

/-- A path with the attributes that it passes: one of the resource type, then sub-attributes. -/
structure Resolved where
  path : AttrPath
  top : Attribute
  below : List Attribute

namespace Resolved

def chain (r : Resolved) : List Attribute :=
  r.top :: r.below

/-- The attribute that the path ends at. -/
def attr (r : Resolved) : Attribute :=
  r.below.getLast?.getD r.top

/-- The path extended to sub-attributes of its last one. -/
def extend (r : Resolved) (path : AttrPath) (more : List Attribute) : Resolved :=
  { r with path, below := r.below ++ more }

end Resolved

/-- The sub-attribute that a segment of the path `full` names. -/
def subOf (full : AttrPath) (a : Attribute) (name : AttrName) : Except ResolutionError Attribute :=
  if !a.isComplex then .error (.invalidPath full (.notComplex a.name))
  else
    match a.sub? name.text with
    | some sub => .ok sub
    | none => .error (.unknownAttribute full name.text)

/-- The attributes that names lead to, starting from an attribute. -/
def follow (full : AttrPath) (a : Attribute) : List AttrName → Except ResolutionError (List Attribute)
  | [] => .ok []
  | name :: rest => do
    let sub ← subOf full a name
    return sub :: (← follow full sub rest)

/-- Resolves a path from the top level of a resource type. -/
def resolve (rt : ResourceType) (path : AttrPath) : Except ResolutionError Resolved := do
  if let some uri := path.schema then
    if !rt.hasSchema uri.text then throw (.unknownAttribute path uri.text)
  match rt.attribute? path.attr.text (path.schema.map (·.text)) with
  | none => throw (.unknownAttribute path path.attr.text)
  | some top => return ⟨path, top, ← follow path top path.subs⟩

/-- The attributes that a path inside `parent` adds, at least one, and the whole path. -/
def followInside (parent : Resolved) (path : AttrPath) :
    Except ResolutionError (AttrPath × Attribute × List Attribute) := do
  if path.schema.isSome then throw (.invalidPath path .schemaInside)
  let full := parent.path.child path.segments
  let first ← subOf full parent.attr path.attr
  return (full, first, ← follow full first path.subs)

/-- Resolves a path inside a complex attribute. -/
def resolveInside (parent : Resolved) (path : AttrPath) : Except ResolutionError Resolved := do
  let (full, first, more) ← followInside parent path
  return parent.extend full (first :: more)

end Scim
