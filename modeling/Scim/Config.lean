import Scim.Filter.Compile

/-!
What a service offers to its clients.
-/

namespace Scim

/-- Options are published as they are given; a feature is offered if its option is set. -/
structure Config where
  documentationUri : Value := .string ""
  /-- Whether resources can be patched. -/
  patch : Value := .bool false
  /-- Whether resources can be filtered. -/
  filter : Value := .bool false
  /-- The number of results that a search may have; null if there is no limit. -/
  maxResults : Value := .null
  /-- How deep filters may be nested. -/
  maxDepth : Filter.DepthLimit := .standard
  limited : filter.isSet = true → maxResults.isSet = true := by decide

inductive ConfigError
  | noResultLimit
  | depth (f : Filter.DepthFault)
  /-- The options are no object. -/
  | options
  /-- There is no option of this name. -/
  | unknown (name : String)

/-- The error in words, where there are any. -/
def ConfigError.message? : ConfigError → Option String
  | .noResultLimit => some "'max_results' must be specified if filtering is supported"
  | .depth f => f.message?
  | .options => none
  | .unknown _ => none

namespace Config

/-- A configuration; services that filter must limit the number of results. -/
def create (documentationUri patch filter maxResults maxDepth : Value) : Except ConfigError Config :=
  if h : filter.isSet = true → maxResults.isSet = true then
    match Filter.DepthLimit.ofValue maxDepth with
    | .ok limit => .ok ⟨documentationUri, patch, filter, maxResults, limit, h⟩
    | .error f => .error (.depth f)
  else .error .noResultLimit

/-- The options in an object, none of them if it is not set; all names must be known. -/
def optionsOf (known : List String) (options : Value) : Except ConfigError Fields :=
  if !options.isSet then .ok []
  else
    match options with
    | .object fields =>
      match (Fields.keys fields).find? fun name => !known.contains name with
      | none => .ok fields
      | some name => .error (.unknown name)
    | _ => .error .options

/-- The configuration that options for patching and filtering describe. -/
def ofOptions (documentationUri patch filter : Value) : Except ConfigError Config := do
  let patch ← optionsOf ["supported"] patch
  let filter ← optionsOf ["supported", "max_results", "max_depth"] filter
  create documentationUri ((patch.lookup "supported").getD (.bool false))
    ((filter.lookup "supported").getD (.bool false)) ((filter.lookup "max_results").getD .null)
    ((filter.lookup "max_depth").getD (.integer Filter.defaultDepth))

def schema : String := "urn:ietf:params:scim:schemas:core:2.0:ServiceProviderConfig"

/-- The statement on an optional feature. -/
def feature (supported : Value) (more : Fields) : Value :=
  .object (("supported", supported) :: more)

/-- The configuration as it is published. -/
def document (c : Config) : Value :=
  .object <|
    [ ("schemas", .list [.string schema]),
      ("patch", feature c.patch []),
      ("bulk", feature (.bool false) [("maxOperations", .integer 0), ("maxPayloadSize", .integer 0)]),
      ("filter", feature c.filter
        (if c.maxResults.isNull then [] else [("maxResults", c.maxResults)])),
      ("changePassword", feature (.bool false) []),
      ("sort", feature (.bool false) []),
      ("etag", feature (.bool false) []),
      ("authenticationSchemes", .list []) ] ++
    if c.documentationUri.isSet then [("documentationUri", c.documentationUri)] else []

end Config

end Scim
