import Scim.Json.Reader
import Scim.Registry
import Scim.Standard.Group

/-!
Sources of resource types: documents at hand, and files of documents.
-/

namespace Scim

/-- Contents of files under their paths. -/
abbrev Files := List (String × String)

inductive Source
  | documents (schemas resourceTypes : List Value)
  | file (path : String)
  /-- A source that always gives the same outcome. -/
  | fixed (outcome : Except FetchFault (List Fetched))

namespace Source

/-- The standard definitions. -/
def standard : Source :=
  .documents Standard.schemaDocuments Standard.resourceTypeDocuments

def fetchDocuments (schemas resourceTypes : Value) : Except FetchFault (List Fetched) :=
  ((Document.buildResourceTypes schemas resourceTypes).map (·.map .resourceType)).mapError .load

/-- Every end of a line becomes a single line feed. -/
def unifyLines : List Char → List Char
  | '\r' :: '\n' :: rest => '\n' :: unifyLines rest
  | '\r' :: rest => '\n' :: unifyLines rest
  | c :: rest => c :: unifyLines rest
  | [] => []

def tooManyDigits (count : Nat) : String :=
  "Exceeds the limit (" ++ toString Text.NumberText.greatestSize ++
    " digits) for integer string conversion: value has " ++ toString count ++
    " digits; use sys.set_int_max_str_digits() to increase the limit"

def missingFile (path : String) : String :=
  "[Errno 2] No such file or directory: " ++ Text.quoted path

/-- A list in an object, empty if it is not there; `none` if it is something else. -/
def listIn? (name : String) (fields : Fields) : Option (List Value) :=
  match fields.lookup name with
  | none => some []
  | some (.list items) => some items
  | some _ => none

/-- Reads a file that holds an object with two lists of documents. -/
def fetchFile (path content : String) : Except FetchFault (List Fetched) :=
  let text := unifyLines content.toList
  match Json.read text with
  | .error (.malformed f) => .error (.load (.unreadableFile path (f.describe text)))
  | .error (.tooManyDigits count) => .error (.reported (tooManyDigits count))
  | .ok (.object fields) =>
    match listIn? "schemas" fields, listIn? "resourceTypes" fields with
    | some schemas, some resourceTypes => fetchDocuments (.list schemas) (.list resourceTypes)
    | _, _ => .error (.load .notLists)
  | .ok _ => .error (.load (.notAnObject path))

def fetch (files : Files) : Source → Except FetchFault (List Fetched)
  | .documents schemas resourceTypes => fetchDocuments (.list schemas) (.list resourceTypes)
  | .file path =>
    match files.lookup path with
    | none => .error (.load (.unreadableFile path (missingFile path)))
    | some content => fetchFile path content
  | .fixed outcome => outcome

end Source

end Scim
