import Scim.Attribute
import Scim.Text.Quoted

/-!
Schemas and resource types.  A resource type has the common attributes, those of its core schema and
those of its extensions, in this order, each bound to the schema it comes from.
-/

namespace Scim

/-- A schema as it is published. -/
structure Schema where
  id : SchemaUri
  name : String := ""
  description : String := ""
  attributes : List Attribute := []

structure Extension where
  schema : SchemaUri
  required : Bool

structure ResourceType where
  name : String
  endpoint : String
  schema : SchemaUri
  attributes : List Attribute
  extensions : List Extension
  description : String

/-- An attribute name that a resource type would have twice, with the schemas that define it. -/
structure NameConflict where
  name : AttrName
  resourceType : String
  first : Option SchemaUri
  second : Option SchemaUri

def shownUri : Option SchemaUri → String
  | none => Value.null.display
  | some uri => Text.quoted uri.text

def NameConflict.message (c : NameConflict) : String :=
  "attribute '" ++ c.name.text ++ "' defined more than once in resource type " ++
    Text.quoted c.resourceType ++ " (schemas: " ++ shownUri c.first ++ ", " ++ shownUri c.second ++ ")"

namespace ResourceType

/-- The attributes that all resources have. -/
def commonAttributes : List Attribute :=
  [ { name := ⟨"id", .refl true⟩
      type := .string
      description := "A unique identifier for a SCIM resource as defined by the service provider."
      caseExact := true
      mutability := .readOnly
      returned := .always
      uniqueness := .server },
    { name := ⟨"externalId", .refl true⟩
      type := .string
      description :=
        "A String that is an identifier for the resource as defined by the provisioning client."
      caseExact := true },
    { name := ⟨"meta", .refl true⟩
      type := .complex
      description := "A complex attribute containing resource metadata."
      mutability := .readOnly
      subAttributes :=
        [ { name := ⟨"resourceType", .refl true⟩, type := .string, caseExact := true,
            mutability := .readOnly },
          { name := ⟨"created", .refl true⟩, type := .dateTime, mutability := .readOnly },
          { name := ⟨"lastModified", .refl true⟩, type := .dateTime, mutability := .readOnly },
          { name := ⟨"location", .refl true⟩, type := .reference, caseExact := true,
            mutability := .readOnly, referenceTypes := ["uri"] },
          { name := ⟨"version", .refl true⟩, type := .string, caseExact := true,
            mutability := .readOnly } ] } ]

/-- The first attribute whose name an earlier one has, with that earlier one. -/
def repeated? : List Attribute → List Attribute → Option (Attribute × Attribute)
  | _, [] => none
  | seen, a :: rest =>
    match seen.find? (·.name.same a.name) with
    | some first => some (first, a)
    | none => repeated? (seen ++ [a]) rest

/-- Flattens a core schema and its extensions into a resource type. -/
def build (name endpoint description : String) (core : Schema) (extensions : List (Schema × Bool)) :
    Except NameConflict ResourceType :=
  let attributes :=
    (commonAttributes ++ core.attributes).map (Attribute.bind core.id) ++
      extensions.flatMap fun (schema, _) => schema.attributes.map (Attribute.bind schema.id)
  match repeated? [] attributes with
  | some (first, second) => .error ⟨second.name, name, first.schema, second.schema⟩
  | none =>
    .ok
      { name, endpoint, description, attributes
        schema := core.id
        extensions := extensions.map fun (schema, required) => ⟨schema.id, required⟩ }

/-- The core schema and the extensions. -/
def schemas (rt : ResourceType) : List SchemaUri :=
  rt.schema :: rt.extensions.map (·.schema)

/-- Whether a text is the URI of one of the resource type's schemas. -/
def hasSchema (rt : ResourceType) (uri : String) : Bool :=
  rt.schemas.any (·.isSpelled uri)

/-- Whether a text is the URI of one of the extensions. -/
def isExtension (rt : ResourceType) (uri : String) : Bool :=
  rt.extensions.any (·.schema.isSpelled uri)

/-- The first attribute of a name, among those of a schema if one is given. -/
def attribute? (rt : ResourceType) (name : String) (schema : Option String) : Option Attribute :=
  rt.attributes.find? fun a =>
    a.name.isSpelled name &&
      match schema with
      | none => true
      | some uri => a.schema.any (·.isSpelled uri)

/-- The extension whose container holds the attribute, if it is not at the top level. -/
def extensionOf? (rt : ResourceType) (a : Attribute) : Option String :=
  match a.schema with
  | some uri => if rt.isExtension uri.text then some uri.text else none
  | none => none

/-- The name of a top-level attribute among those of all schemas. -/
def attributeKey (rt : ResourceType) (a : Attribute) : String :=
  match rt.extensionOf? a with
  | some uri => uri ++ ":" ++ a.name.text
  | none => a.name.text

/-- The value of a top-level attribute in a resource; those of an extension lie in its container. -/
def valueOf (rt : ResourceType) (a : Attribute) (data : Value) : Value :=
  match rt.extensionOf? a with
  | some uri => a.valueIn (data.get uri)
  | none => a.valueIn data

/-- Changes the object that holds the attribute: the resource itself, or the container of its
extension if there is one. -/
def changeHolder (rt : ResourceType) (a : Attribute) (change : Fields → Fields) (data : Fields) : Fields :=
  match rt.extensionOf? a with
  | none => change data
  | some uri =>
    match Fields.key? uri data with
    | none => data
    | some key =>
      match Fields.value key data with
      | .object container => Fields.insert key (.object (change container)) data
      | _ => data

/-- Takes the value of an attribute out of an object. -/
def removeFrom (a : Attribute) (fields : Fields) : Value × Fields :=
  match a.key? fields with
  | some key => (Fields.value key fields, Fields.erase key fields)
  | none => (.missing, fields)

/-- Takes the value of a top-level attribute out of a resource. -/
def removeValue (rt : ResourceType) (a : Attribute) (data : Fields) : Value × Fields :=
  match rt.extensionOf? a with
  | none => removeFrom a data
  | some uri =>
    match Fields.key? uri data with
    | none => (.missing, data)
    | some key =>
      match Fields.value key data with
      | .object container =>
        let (v, container) := removeFrom a container
        (v, Fields.insert key (.object container) data)
      | _ => (.missing, data)

end ResourceType

end Scim
