import Scim.AttrName
import Scim.SchemaUri
import Scim.Text.Quoted

/-!
Attribute paths: an attribute name and names of sub-attributes, with dots between them, and optionally
in front the URI of the schema that the first name belongs to.
-/

namespace Scim

structure AttrPath where
  schema : Option SchemaUri
  /-- The name of the top-level attribute. -/
  attr : AttrName
  /-- The names of sub-attributes, from the outside in. -/
  subs : List AttrName
  deriving DecidableEq

/-- Why something is not an attribute name, a schema URI or an attribute path. -/
inductive IdentifierError
  | name (text : String)
  | uri (text : String)
  | path (text : String)
  | noSegments
  deriving DecidableEq, Repr

def IdentifierError.message : IdentifierError → String
  | .name text => Text.quoted text ++ " is not valid attr name"
  | .uri text => Text.quoted text ++ " is not a valid schema URI"
  | .path text => Text.quoted text ++ " is not valid attribute path"
  | .noSegments => "attribute path requires at least one segment"

def AttrName.ofString (text : String) : Except IdentifierError AttrName :=
  match ofString? text with
  | some name => .ok name
  | none => .error (.name text)

def SchemaUri.ofString (text : String) : Except IdentifierError SchemaUri :=
  match ofString? text with
  | some uri => .ok uri
  | none => .error (.uri text)

namespace AttrPath

def segments (path : AttrPath) : List AttrName :=
  path.attr :: path.subs

def length (path : AttrPath) : Nat :=
  path.segments.length

/-- The names with dots between them. -/
def dotted (names : List AttrName) : List Char :=
  List.intercalate ['.'] (names.map fun name => name.text.toList)

def spell (path : AttrPath) : List Char :=
  match path.schema with
  | none => dotted path.segments
  | some uri => uri.text.toList ++ ':' :: dotted path.segments

def text (path : AttrPath) : String :=
  String.ofList path.spell

def describe (path : AttrPath) : String :=
  "AttrPath(" ++ path.text ++ ")"

/-- Whether two paths differ in case only. -/
def same (p q : AttrPath) : Bool :=
  p.segments.map AttrName.folded = q.segments.map AttrName.folded &&
    p.schema.map SchemaUri.folded = q.schema.map SchemaUri.folded

/-- Extends the path by names of sub-attributes. -/
def child (path : AttrPath) (names : List AttrName) : AttrPath :=
  { path with subs := path.subs ++ names }

/-- The path of these segments; an empty text stands for no schema. -/
def ofSegments (segments : List String) (schema : String) : Except IdentifierError AttrPath := do
  match segments with
  | [] => .error .noSegments
  | attr :: subs =>
    let attr ← AttrName.ofString attr
    let subs ← subs.mapM AttrName.ofString
    if schema = "" then .ok ⟨none, attr, subs⟩
    else
      let uri ← SchemaUri.ofString schema
      .ok ⟨some uri, attr, subs⟩

/-- Splits a text in front of its last colon; `none` if it has no colon. -/
def splitSchema (cs : List Char) : Option (List Char) × List Char :=
  let behind := (cs.reverse.takeWhile (· ≠ ':')).reverse
  if behind.length = cs.length then (none, cs)
  else (some (cs.take (cs.length - behind.length - 1)), behind)

/-- Reads names with dots between them. -/
def readDotted? (cs : List Char) : Option (AttrName × List AttrName) := do
  match ← (Text.pieces '.' cs).mapM fun piece => AttrName.ofString? (String.ofList piece) with
  | [] => none
  | attr :: subs => some (attr, subs)

/-- Reads a path that takes the whole text. -/
def read? (cs : List Char) : Option AttrPath := do
  let (uri, names) := splitSchema cs
  let (attr, subs) ← readDotted? names
  match uri with
  | none => some ⟨none, attr, subs⟩
  | some uri => do
    let uri ← SchemaUri.ofString? (String.ofList uri)
    some ⟨some uri, attr, subs⟩

def ofString (text : String) : Except IdentifierError AttrPath :=
  match read? text.toList with
  | some path => .ok path
  | none => .error (.path text)

end AttrPath

end Scim
