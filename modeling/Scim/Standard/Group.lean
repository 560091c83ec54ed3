import Scim.ResourceType.Document
import Scim.Standard.User

/-!
The group schema of the standard, the resource type of groups, and the documents of all standard
definitions.
-/

namespace Scim.Standard

def groupSchema : SchemaUri := ⟨"urn:ietf:params:scim:schemas:core:2.0:Group", .refl true⟩

def group : Schema :=
  { id := groupSchema
    name := "Group"
    description := "Group"
    attributes :=
      [ { text ⟨"displayName", .refl true⟩ "A human-readable name for the Group." with
          required := true },
        { name := ⟨"members", .refl true⟩, type := .complex, multiValued := true
          description := "A list of members of the Group."
          subAttributes :=
            [ { text ⟨"value", .refl true⟩ "Identifier of the member of this Group." with
                mutability := .immutable },
              { name := ⟨"$ref", .refl true⟩, type := .reference
                description := "The URI corresponding to a SCIM resource that is a member."
                mutability := .immutable
                referenceTypes := ["User", "Group"] },
              { text ⟨"type", .refl true⟩ "A label indicating the type of resource, e.g., 'User'." with
                mutability := .immutable
                canonicalValues := [.string "User", .string "Group"] } ] } ] }

/-- The document of the resource type of groups. -/
def groupResourceType : Value :=
  .object
    [ ("id", .string "Group"),
      ("name", .string "Group"),
      ("endpoint", .string "/Groups"),
      ("description", .string "Group"),
      ("schema", .string groupSchema.text) ]

/-- The documents of the standard schemas. -/
def schemaDocuments : List Value :=
  [user.document, enterpriseUser.document, group.document]

/-- The documents of the standard resource types. -/
def resourceTypeDocuments : List Value :=
  [userResourceType, groupResourceType]

end Scim.Standard
