import Scim.Error
import Scim.Filter.Reader
import Scim.Lowering

/-!
From filter expressions to predicates, with errors as clients are told about them.
-/

namespace Scim

/-- The error in an expression that was read under a limit of nesting. -/
def Filter.SyntaxError.toError (limit : Filter.DepthLimit) (e : Filter.SyntaxError) : Error :=
  .filterSyntax (e.problem.message limit) e.position

def ResolutionError.toError : ResolutionError → Error
  | .unknownAttribute path segment => .unknownAttribute path.text segment
  | .invalidPath path fault => .invalidPath path.text fault.message

def LoweringError.toError : LoweringError → Error
  | .resolution e => e.toError
  | .operatorType path operator type =>
    .operatorType path.text operator.name ((type.map AttributeType.name).getD "null")
  | .typeMismatch path literal type => .typeMismatch path.text literal type.name

namespace Filter

/-- Reads an expression under a limit of nesting. -/
def parse (limit : DepthLimit) (s : String) : Except Error Filter :=
  (Filter.read limit.levels s.toList).mapError (SyntaxError.toError limit)

/-- Reads an expression that may be absent or blank. -/
def parse? (limit : DepthLimit) (s : Option String) : Except Error (Option Filter) :=
  match s with
  | none => .ok none
  | some s => if isBlankText s then .ok none else (parse limit s).map some

/-- The predicate of a filter over records of a resource type. -/
def toPredicate (rt : ResourceType) (f : Filter) : Except Error Predicate :=
  (lower rt f).mapError LoweringError.toError

/-- Why an expression cannot be read. -/
inductive ReadFailure
  | depth (f : DepthFault)
  | filter (e : Error)

/-- Reads an expression under the limit of nesting that is asked for. -/
def ofString (limit : Value) (s : String) : Except ReadFailure Filter := do
  let limit ← (DepthLimit.requested limit).mapError .depth
  (parse limit s).mapError .filter

/-- Reads an expression that may be absent or blank; only for others the limit matters. -/
def ofString? (limit : Value) (s : Option String) : Except ReadFailure (Option Filter) :=
  match s with
  | none => .ok none
  | some s => if isBlankText s then .ok none else (ofString limit s).map some

end Filter

end Scim
