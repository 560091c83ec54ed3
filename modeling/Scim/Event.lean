import Scim.Text.Quoted
import Scim.Value

/-!
Events: what is logged while the library works.
-/

namespace Scim

inductive Level
  | debug
  | info
  | warning
  | error
  | critical
  deriving DecidableEq, Repr

namespace Level

def all : List Level := [.debug, .info, .warning, .error, .critical]

def name : Level → String
  | .debug => "debug"
  | .info => "info"
  | .warning => "warning"
  | .error => "error"
  | .critical => "critical"

def ofName? (name : String) : Option Level :=
  all.find? fun level => level.name = name

def rank : Level → Nat
  | .debug => 10
  | .info => 20
  | .warning => 30
  | .error => 40
  | .critical => 50

/-- The ranks that thresholds can be set to, under their names. -/
def thresholds : List (String × Nat) :=
  [ ("CRITICAL", 50), ("FATAL", 50), ("ERROR", 40), ("WARN", 30), ("WARNING", 30), ("INFO", 20),
    ("DEBUG", 10), ("NOTSET", 0) ]

/-- The capital letter of a character, if that is an ASCII letter. -/
def capital (c : Char) : Char :=
  if c = 'ı' then 'I' else if c = 'ſ' then 'S' else c.toUpper

/-- The threshold of a name in any case. -/
def threshold? (name : String) : Option Nat :=
  thresholds.lookup (String.ofList (name.toList.map capital))

def unknownMessage (name : String) : String :=
  "unknown log level " ++ Text.quoted name

/-- Whether events of the level pass a threshold. -/
def passes (level : Level) (threshold : Nat) : Bool :=
  threshold ≤ level.rank

end Level

inductive Event
  | schemasLoaded (version : Nat) (resourceTypes : List String)
  | schemaLoadFailed (detail : String) (version : Nat)
  | recordAdded (resourceType : String) (id : Value)
  | recordReplaced (resourceType : String) (id : Value)
  | uniquenessCheck (scope : Option String) (key : String) (excluding : Option Value)
  /-- There is nowhere to look for equal values. -/
  | uniquenessCheckSkipped (key : String)
  | filterRejected (resourceType : String)
  | patchRejected (resourceType : String)
  | searchRejected (resourceType : String) (filter : Option String)
  | searchCompleted (resourceType : String) (filter : Option String) (results : Nat)

namespace Event

def name : Event → String
  | .schemasLoaded .. => "schemas_loaded"
  | .schemaLoadFailed .. => "schema_load_failed"
  | .recordAdded .. => "record_added"
  | .recordReplaced .. => "record_replaced"
  | .uniquenessCheck .. => "uniqueness_check"
  | .uniquenessCheckSkipped _ => "uniqueness_check_skipped"
  | .filterRejected _ => "filter_rejected"
  | .patchRejected _ => "patch_rejected"
  | .searchRejected .. => "search_rejected"
  | .searchCompleted .. => "search_completed"

def level : Event → Level
  | .schemasLoaded .. => .info
  | .schemaLoadFailed .. => .error
  | .recordAdded .. => .debug
  | .recordReplaced .. => .debug
  | .uniquenessCheck .. => .debug
  | .uniquenessCheckSkipped _ => .debug
  | .filterRejected _ => .info
  | .patchRejected _ => .info
  | .searchRejected .. => .info
  | .searchCompleted .. => .debug

/-- A text that may be absent. -/
def optionalText : Option String → Value
  | none => .null
  | some s => .string s

def fields : Event → Fields
  | .schemasLoaded version resourceTypes =>
    [("version", .integer version), ("resource_types", .list (resourceTypes.map .string))]
  | .schemaLoadFailed detail version =>
    [("error", .string detail), ("current_version", .integer version)]
  | .recordAdded resourceType id => [("resource_type", .string resourceType), ("id", id)]
  | .recordReplaced resourceType id => [("resource_type", .string resourceType), ("id", id)]
  | .uniquenessCheck scope key excluding =>
    [ ("resource_type", optionalText scope), ("attribute", .string key),
      ("excluding_id", excluding.getD .null) ]
  | .uniquenessCheckSkipped key => [("attribute", .string key), ("reason", .string "no storage")]
  | .filterRejected resourceType =>
    [("resource_type", .string resourceType), ("reason", .string "not supported")]
  | .patchRejected resourceType =>
    [("resource_type", .string resourceType), ("reason", .string "not supported")]
  | .searchRejected resourceType filter =>
    [ ("resource_type", .string resourceType), ("filter", optionalText filter),
      ("reason", .string "too many results") ]
  | .searchCompleted resourceType filter results =>
    [ ("resource_type", .string resourceType), ("filter", optionalText filter),
      ("results", .integer results) ]

end Event

end Scim
