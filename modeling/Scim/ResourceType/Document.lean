import Scim.Attribute.Document
import Scim.ResourceType

/-!
Schemas and resource types as documents.
-/

namespace Scim

def schemaSchema : String := "urn:ietf:params:scim:schemas:core:2.0:Schema"

def resourceTypeSchema : String := "urn:ietf:params:scim:schemas:core:2.0:ResourceType"

def Schema.document (s : Schema) : Value :=
  .object
    [ ("schemas", .list [.string schemaSchema]),
      ("id", .string s.id.text),
      ("name", .string s.name),
      ("description", .string s.description),
      ("attributes", .list (Attribute.documents s.attributes)) ]

def Extension.document (e : Extension) : Value :=
  .object [("schema", .string e.schema.text), ("required", .bool e.required)]

def ResourceType.document (rt : ResourceType) : Value :=
  .object <|
    [ ("schemas", .list [.string resourceTypeSchema]),
      ("id", .string rt.name),
      ("name", .string rt.name),
      ("endpoint", .string rt.endpoint),
      ("description", .string rt.description),
      ("schema", .string rt.schema.text) ] ++
    Attribute.listField "schemaExtensions" (rt.extensions.map Extension.document)

end Scim
