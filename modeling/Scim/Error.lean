import Scim.Issue
import Scim.Value.Display

/-!
Errors that clients are told about, and the error responses for them.
-/

namespace Scim

inductive Error
  | general (detail : String)
  | schemaLoad (detail : String)
  | unknownResourceType (name : String)
  | filterSyntax (problem : String) (position : Int)
  | unknownAttribute (path segment : String)
  | invalidPath (path reason : String)
  | typeMismatch (path : String) (value : Value) (expected : String)
  | operatorType (path operator type : String)
  | filterNotSupported
  | patchNotSupported
  | tooManyResults (limit : Value)
  | invalid (first : Issue) (more : List Issue)
  /-- A value that must be unique within a resource type, or among all if there is none. -/
  | uniquenessConflict (scope : Option String) (key : String) (value : Value)

namespace Error

def schema : String := "urn:ietf:params:scim:api:messages:2.0:Error"

def noIssuesMessage : String := "at least one validation issue is required"

/-- The error that reports issues, of which there must be some. -/
def ofIssues? : List Issue → Option Error
  | [] => none
  | first :: more => some (.invalid first more)

/-- A uniqueness conflict in words. -/
def conflictDetail (key : String) (value : Value) : String :=
  "value " ++ value.display ++ " of attribute " ++ Text.quoted key ++ " is already in use"

def issueDetail (issue : Issue) : String :=
  issue.path ++ ": " ++ issue.message

def detail : Error → String
  | .general detail => detail
  | .schemaLoad detail => detail
  | .unknownResourceType name => "unknown resource type " ++ Text.quoted name
  | .filterSyntax problem position => problem ++ " (at position " ++ toString position ++ ")"
  | .unknownAttribute path segment =>
    "unknown attribute " ++ Text.quoted segment ++ " in path " ++ Text.quoted path
  | .invalidPath path reason => "invalid attribute path " ++ Text.quoted path ++ ": " ++ reason
  | .typeMismatch path value expected =>
    "value " ++ value.display ++ " is not compatible with " ++ Text.quoted expected ++ " attribute " ++
      Text.quoted path
  | .operatorType path operator type =>
    "operator " ++ Text.quoted operator ++ " is not supported for " ++ Text.quoted type ++
      " attribute " ++ Text.quoted path
  | .filterNotSupported => "filtering is not supported"
  | .patchNotSupported => "patch operation is not supported"
  | .tooManyResults limit => "the filter yields more than " ++ limit.words ++ " results"
  | .invalid first more => "; ".intercalate ((first :: more).map issueDetail)
  | .uniquenessConflict _ key value => conflictDetail key value

/-- The status of the error response. -/
def status : Error → Nat
  | .schemaLoad _ => 500
  | .unknownResourceType _ => 404
  | .patchNotSupported => 501
  | .invalid first _ => first.kind.status
  | .uniquenessConflict .. => 409
  | _ => 400

/-- The detail type of the error response, if it has one. -/
def errorType? : Error → Option ErrorType
  | .general _ => none
  | .schemaLoad _ => none
  | .unknownResourceType _ => none
  | .patchNotSupported => none
  | .filterSyntax .. => some .invalidFilter
  | .unknownAttribute .. => some .invalidFilter
  | .invalidPath .. => some .invalidFilter
  | .operatorType .. => some .invalidFilter
  | .filterNotSupported => some .invalidFilter
  | .typeMismatch .. => some .invalidValue
  | .tooManyResults _ => some .tooMany
  | .invalid first _ => some first.kind.errorType
  | .uniquenessConflict .. => some .uniqueness

/-- The error response. -/
def document (e : Error) : Value :=
  .object <|
    [ ("schemas", .list [.string schema]),
      ("status", .string (toString e.status)),
      ("detail", .string e.detail) ] ++
    match e.errorType? with
    | some type => [("scimType", .string type.name)]
    | none => []

/-- The issue that a uniqueness conflict amounts to. -/
def conflictIssue (key : String) (value : Value) : Issue :=
  ⟨key, .uniqueness, conflictDetail key value⟩

end Error

end Scim
