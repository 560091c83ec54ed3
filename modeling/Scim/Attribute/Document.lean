import Scim.Attribute

/-!
Definitions of attributes as documents.
-/

namespace Scim.Attribute

/-- Texts of which it matters whether they are compared with regard to case. -/
def statesCase : AttributeType → Bool
  | .string => true
  | .reference => true
  | .binary => true
  | _ => false

def statesUniqueness : AttributeType → Bool
  | .complex => false
  | .boolean => false
  | _ => true

/-- A field that is left out when its list is empty. -/
def listField (key : String) (items : List Value) : Fields :=
  if items.isEmpty then [] else [(key, .list items)]

/-- The fields of a definition's document, given the documents of its sub-attributes. -/
def documentFields (a : Attribute) (subDocuments : List Value) : Fields :=
  [ ("name", .string a.name.text),
    ("type", .string a.type.name),
    ("multiValued", .bool a.multiValued),
    ("description", .string a.description),
    ("required", .bool a.required),
    ("mutability", .string a.mutability.name),
    ("returned", .string a.returned.name) ] ++
  (if statesCase a.type then [("caseExact", .bool a.caseExact)] else []) ++
  (if statesUniqueness a.type then [("uniqueness", .string a.uniqueness.name)] else []) ++
  listField "canonicalValues" a.canonicalValues ++
  listField "referenceTypes" (a.referenceTypes.map .string) ++
  listField "subAttributes" subDocuments

/-- The URI of the schema that an attribute belongs to; null if it belongs to none. -/
def schemaField (a : Attribute) : String × Value :=
  ("schema", match a.schema with
    | some uri => .string uri.text
    | none => .null)

mutual

/-- The document of a definition. -/
def document : Attribute → Value
  | a@⟨_, _, _, _, _, _, _, _, _, _, _, subAttributes, _⟩ =>
    .object (documentFields a (documents subAttributes))

def documents : List Attribute → List Value
  | [] => []
  | a :: rest => document a :: documents rest

end

mutual

/-- The document of a definition with the URI of its schema, at every level. -/
def boundDocument : Attribute → Value
  | a@⟨_, _, _, _, _, _, _, _, _, _, _, subAttributes, _⟩ =>
    .object (documentFields a (boundDocuments subAttributes) ++ [schemaField a])

def boundDocuments : List Attribute → List Value
  | [] => []
  | a :: rest => boundDocument a :: boundDocuments rest

end

end Scim.Attribute
