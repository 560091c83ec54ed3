/-!
Issues: what is wrong with a payload.
-/

namespace Scim

/-- The detail types of error responses that are in use. -/
inductive ErrorType
  | invalidFilter
  | tooMany
  | uniqueness
  | mutability
  | invalidValue
  deriving DecidableEq, Repr

def ErrorType.name : ErrorType → String
  | .invalidFilter => "invalidFilter"
  | .tooMany => "tooMany"
  | .uniqueness => "uniqueness"
  | .mutability => "mutability"
  | .invalidValue => "invalidValue"

/-- The rule that a payload breaks. -/
inductive IssueKind
  | required
  | mutability
  | type
  | uniqueness
  deriving DecidableEq, Repr

namespace IssueKind

def all : List IssueKind := [.required, .mutability, .type, .uniqueness]

def name : IssueKind → String
  | .required => "required"
  | .mutability => "mutability"
  | .type => "type"
  | .uniqueness => "uniqueness"

/-- The status of an error response that reports the issue. -/
def status : IssueKind → Nat
  | .uniqueness => 409
  | _ => 400

def errorType : IssueKind → ErrorType
  | .required => .invalidValue
  | .type => .invalidValue
  | .mutability => .mutability
  | .uniqueness => .uniqueness

end IssueKind

structure Issue where
  /-- The path of the attribute, with positions in lists in brackets. -/
  path : String
  kind : IssueKind
  message : String
  deriving DecidableEq, Repr

end Scim
