import Scim.Document.Reader

/-!
Resource types from documents: every resource type is flattened with the schemas that it names.
-/

namespace Scim

/-- Why no resource types can be had. -/
inductive LoadError
  | malformed (report : Document.Report)
  | repeatedSchema (uri : SchemaUri)
  | unknownSchema (resourceType : String) (uri : SchemaUri)
  | nameConflict (c : NameConflict)
  | unreadableFile (path reason : String)
  | notAnObject (path : String)
  | notLists
  | cannotFetch (reason : String)
  /-- A reason that the source itself states. -/
  | stated (detail : String)
  | noResourceTypes
  | notAResourceType (typeName : String)
  | repeatedResourceType (name : String)
  | repeatedEndpoint (endpoint first second : String)
  | noSource
  | notLoaded

def LoadError.message : LoadError → String
  | .malformed report => "malformed schema definitions: " ++ report.text
  | .repeatedSchema uri => "schema " ++ Text.quoted uri.text ++ " defined more than once"
  | .unknownSchema resourceType uri =>
    "resource type " ++ Text.quoted resourceType ++ " refers to unknown schema " ++ Text.quoted uri.text
  | .nameConflict c => c.message
  | .unreadableFile path reason => "can not read schema file " ++ Text.quoted path ++ ": " ++ reason
  | .notAnObject path => "schema file " ++ Text.quoted path ++ " must contain JSON object"
  | .notLists => "'schemas' and 'resourceTypes' must be lists"
  | .cannotFetch reason => "can not fetch schema definitions: " ++ reason
  | .stated detail => detail
  | .noResourceTypes => "no resource type definitions found"
  | .notAResourceType typeName => "expected resource type schema, got " ++ Text.quoted typeName
  | .repeatedResourceType name => "resource type " ++ Text.quoted name ++ " defined more than once"
  | .repeatedEndpoint endpoint first second =>
    "endpoint " ++ Text.quoted endpoint ++ " used by resource types " ++ Text.quoted first ++ " and " ++
      Text.quoted second
  | .noSource => "no schema source configured"
  | .notLoaded => "schemas have not been loaded"

namespace Document

/-- The first schema whose URI an earlier one has too. -/
def repeatedSchema? : List SchemaUri → List Schema → Option SchemaUri
  | _, [] => none
  | seen, s :: rest => if seen.any (·.same s.id) then some s.id else repeatedSchema? (s.id :: seen) rest

/-- The schema of a URI. -/
def schemaFor (schemas : List Schema) (resourceType : String) (uri : SchemaUri) :
    Except LoadError Schema :=
  match schemas.find? (·.id.same uri) with
  | some s => .ok s
  | none => .error (.unknownSchema resourceType uri)

/-- Flattens a resource type with its schemas. -/
def assemble (schemas : List Schema) (d : ResourceTypeDocument) : Except LoadError ResourceType := do
  let core ← schemaFor schemas d.name d.schema
  let extensions ← d.extensions.mapM fun e => do
    return (← schemaFor schemas d.name e.schema, e.required)
  (ResourceType.build d.name d.endpoint d.description core extensions).mapError .nameConflict

/-- The resource types that documents describe. -/
def buildResourceTypes (schemaDocuments resourceTypeDocuments : Value) :
    Except LoadError (List ResourceType) := do
  let schemas ← (readAll readSchema schemaDocuments).mapError .malformed
  let resourceTypes ← (readAll readResourceType resourceTypeDocuments).mapError .malformed
  match repeatedSchema? [] schemas with
  | some uri => throw (.repeatedSchema uri)
  | none => resourceTypes.mapM (assemble schemas)

end Document

end Scim
