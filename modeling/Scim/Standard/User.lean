import Scim.ResourceType

/-!
The user schema of the standard, its enterprise extension, and the resource type of users.
-/

namespace Scim.Standard

/-- A text attribute. -/
def text (name : AttrName) (description : String) : Attribute :=
  { name, type := .string, description }

/-- A list of complex values, each with a value, a display name, a label and a mark of preference. -/
def labelledValues (name : AttrName) (description : String) (valueType : AttributeType)
    (labels references : List String) : Attribute :=
  { name, type := .complex, multiValued := true, description
    subAttributes :=
      [ { name := ⟨"value", .refl true⟩, type := valueType
          description := "Value of the " ++ name.text ++ " item."
          referenceTypes := references },
        text ⟨"display", .refl true⟩ "A human-readable name, primarily used for display purposes.",
        { text ⟨"type", .refl true⟩ "A label indicating the attribute's function." with
          canonicalValues := labels.map .string },
        { name := ⟨"primary", .refl true⟩, type := .boolean
          description :=
            "A Boolean value indicating the 'primary' or preferred value of the attribute. " ++
              "The value 'true' appears no more than once." } ] }

def userSchema : SchemaUri := ⟨"urn:ietf:params:scim:schemas:core:2.0:User", .refl true⟩

def enterpriseUserSchema : SchemaUri :=
  ⟨"urn:ietf:params:scim:schemas:extension:enterprise:2.0:User", .refl true⟩

def user : Schema :=
  { id := userSchema
    name := "User"
    description := "User Account"
    attributes :=
      [ { text ⟨"userName", .refl true⟩
            ("Unique identifier for the User, typically used by the user to directly authenticate " ++
              "to the service provider.") with
          required := true, uniqueness := .server },
        { name := ⟨"name", .refl true⟩, type := .complex
          description := "The components of the user's real name."
          subAttributes :=
            [ text ⟨"formatted", .refl true⟩ "The full name, formatted for display.",
              text ⟨"familyName", .refl true⟩ "The family name of the User.",
              text ⟨"givenName", .refl true⟩ "The given name of the User.",
              text ⟨"middleName", .refl true⟩ "The middle name(s) of the User.",
              text ⟨"honorificPrefix", .refl true⟩ "The honorific prefix(es) of the User.",
              text ⟨"honorificSuffix", .refl true⟩ "The honorific suffix(es) of the User." ] },
        text ⟨"displayName", .refl true⟩ "The name of the User, suitable for display to end-users.",
        text ⟨"nickName", .refl true⟩ "The casual way to address the user in real life.",
        { name := ⟨"profileUrl", .refl true⟩, type := .reference
          description := "A fully qualified URL pointing to the User's online profile."
          referenceTypes := ["external"] },
        text ⟨"title", .refl true⟩ "The user's title, such as 'Vice President'.",
        text ⟨"userType", .refl true⟩
          "Used to identify the relationship between the organization and the user.",
        text ⟨"preferredLanguage", .refl true⟩
          "Indicates the User's preferred written or spoken language.",
        text ⟨"locale", .refl true⟩ "Used to indicate the User's default location.",
        text ⟨"timezone", .refl true⟩ "The User's time zone in the 'Olson' time zone database format.",
        { name := ⟨"active", .refl true⟩, type := .boolean
          description := "A Boolean value indicating the User's administrative status." },
        { text ⟨"password", .refl true⟩
            "The User's cleartext password, used to set an initial password or to reset it." with
          mutability := .writeOnly, returned := .never },
        labelledValues ⟨"emails", .refl true⟩ "Email addresses for the user." .string
          ["work", "home", "other"] [],
        labelledValues ⟨"phoneNumbers", .refl true⟩ "Phone numbers for the User." .string
          ["work", "home", "mobile", "fax", "pager", "other"] [],
        labelledValues ⟨"ims", .refl true⟩ "Instant messaging addresses for the User." .string
          ["aim", "gtalk", "icq", "xmpp", "msn", "skype", "qq", "yahoo"] [],
        labelledValues ⟨"photos", .refl true⟩ "URLs of photos of the User." .reference
          ["photo", "thumbnail"] ["external"],
        { name := ⟨"addresses", .refl true⟩, type := .complex, multiValued := true
          description := "A physical mailing address for this User."
          subAttributes :=
            [ text ⟨"formatted", .refl true⟩ "The full mailing address, formatted for display.",
              text ⟨"streetAddress", .refl true⟩ "The full street address component.",
              text ⟨"locality", .refl true⟩ "The city or locality component.",
              text ⟨"region", .refl true⟩ "The state or region component.",
              text ⟨"postalCode", .refl true⟩ "The zip code or postal code component.",
              text ⟨"country", .refl true⟩ "The country name component.",
              { text ⟨"type", .refl true⟩ "A label indicating the attribute's function." with
                canonicalValues := [.string "work", .string "home", .string "other"] },
              { name := ⟨"primary", .refl true⟩, type := .boolean
                description := "Indicates the primary address." } ] },
        { name := ⟨"groups", .refl true⟩, type := .complex, multiValued := true
          mutability := .readOnly
          description := "A list of groups to which the user belongs."
          subAttributes :=
            [ { text ⟨"value", .refl true⟩ "The identifier of the User's group." with
                mutability := .readOnly },
              { name := ⟨"$ref", .refl true⟩, type := .reference
                description := "The URI of the corresponding 'Group' resource."
                mutability := .readOnly
                referenceTypes := ["User", "Group"] },
              { text ⟨"display", .refl true⟩
                  "A human-readable name, primarily used for display purposes." with
                mutability := .readOnly },
              { text ⟨"type", .refl true⟩ "A label indicating the attribute's function." with
                mutability := .readOnly
                canonicalValues := [.string "direct", .string "indirect"] } ] },
        labelledValues ⟨"entitlements", .refl true⟩ "A list of entitlements for the User." .string [] [],
        labelledValues ⟨"roles", .refl true⟩ "A list of roles for the User." .string [] [],
        labelledValues ⟨"x509Certificates", .refl true⟩
          "A list of certificates issued to the User." .binary [] [] ] }

def enterpriseUser : Schema :=
  { id := enterpriseUserSchema
    name := "EnterpriseUser"
    description := "Enterprise User"
    attributes :=
      [ text ⟨"employeeNumber", .refl true⟩
          "Numeric or alphanumeric identifier assigned to a person by the organization.",
        text ⟨"costCenter", .refl true⟩ "Identifies the name of a cost center.",
        text ⟨"organization", .refl true⟩ "Identifies the name of an organization.",
        text ⟨"division", .refl true⟩ "Identifies the name of a division.",
        text ⟨"department", .refl true⟩ "Identifies the name of a department.",
        { name := ⟨"manager", .refl true⟩, type := .complex
          description := "The User's manager."
          subAttributes :=
            [ text ⟨"value", .refl true⟩
                "The id of the SCIM resource representing the User's manager.",
              { name := ⟨"$ref", .refl true⟩, type := .reference
                description := "The URI of the SCIM resource representing the User's manager."
                referenceTypes := ["User"] },
              { text ⟨"displayName", .refl true⟩ "The displayName of the User's manager." with
                mutability := .readOnly } ] } ] }

/-- The document of the resource type of users. -/
def userResourceType : Value :=
  .object
    [ ("id", .string "User"),
      ("name", .string "User"),
      ("endpoint", .string "/Users"),
      ("description", .string "User Account"),
      ("schema", .string userSchema.text),
      ("schemaExtensions", .list
        [.object [("schema", .string enterpriseUserSchema.text), ("required", .bool false)]]) ]

end Scim.Standard
