import Scim.AttrPath
import Scim.Operator
import Scim.Value

/-!
Filters: conditions on the attributes of a resource, not yet read against a schema.
-/

namespace Scim

/-- What joins the members of a chain. -/
inductive Connective
  | and
  | or
  deriving DecidableEq, Repr

def Connective.name : Connective → String
  | .and => "and"
  | .or => "or"

inductive Filter
  | comparison (path : AttrPath) (operator : Operator) (literal : Value)
  | presence (path : AttrPath)
  /-- The inner filter holds of an element of a complex attribute; its paths start at that element. -/
  | valuePath (path : AttrPath) (inner : Filter)
  | negation (inner : Filter)
  /-- Two or more filters, in the order of their appearance. -/
  | chain (connective : Connective) (first second : Filter) (more : List Filter)

/-- A number of filters that an operator does not take. -/
inductive ArityError
  | chain (connective : Connective)
  | negation
  deriving DecidableEq, Repr

def ArityError.message : ArityError → String
  | .chain connective => "'" ++ connective.name ++ "' requires at least two children"
  | .negation => "'not' requires exactly one child"

namespace Filter

/-- The chain of some filters; one filter alone is no chain. -/
def join (connective : Connective) (first : Filter) : List Filter → Filter
  | [] => first
  | second :: more => .chain connective first second more

def chainOf (connective : Connective) : List Filter → Except ArityError Filter
  | first :: second :: more => .ok (.chain connective first second more)
  | _ => .error (.chain connective)

/-- Combines filters with an operator. -/
def combine (operator : LogicalOperator) (children : List Filter) : Except ArityError Filter :=
  match operator with
  | .and => chainOf .and children
  | .or => chainOf .or children
  | .not =>
    match children with
    | [inner] => .ok (.negation inner)
    | _ => .error .negation

mutual

/-- Whether two filters differ at most in the case of their paths.  Literals of different types differ. -/
def same : Filter → Filter → Bool
  | .comparison p o v, .comparison q o' w => p.same q && o = o' && v.identical w
  | .presence p, .presence q => p.same q
  | .valuePath p f, .valuePath q g => p.same q && f.same g
  | .negation f, .negation g => f.same g
  | .chain c f₁ f₂ fs, .chain d g₁ g₂ gs => c = d && f₁.same g₁ && f₂.same g₂ && sameAll fs gs
  | _, _ => false

def sameAll : List Filter → List Filter → Bool
  | [], [] => true
  | f :: fs, g :: gs => f.same g && sameAll fs gs
  | _, _ => false

end

mutual

/-- The paths of all conditions from left to right, those in a value path behind its own path. -/
def allPaths : Filter → List AttrPath
  | .comparison path _ _ => [path]
  | .presence path => [path]
  | .valuePath path inner => (allPaths inner).map fun p => path.child p.segments
  | .negation inner => allPaths inner
  | .chain _ first second more => allPaths first ++ allPaths second ++ allPathsOf more

def allPathsOf : List Filter → List AttrPath
  | [] => []
  | f :: rest => allPaths f ++ allPathsOf rest

end

/-- Paths without those that repeat an earlier one. -/
def distinctPaths (paths : List AttrPath) : List AttrPath :=
  paths.foldl (fun seen path => if seen.any (·.same path) then seen else seen ++ [path]) []

/-- The paths of the filter, each once. -/
def paths (f : Filter) : List AttrPath :=
  distinctPaths f.allPaths

mutual

/-- The filter as a tree of objects. -/
def document : Filter → Value
  | .comparison path operator literal =>
    .object [("op", .string operator.name), ("attr", .string path.text), ("value", literal)]
  | .presence path => .object [("op", .string "pr"), ("attr", .string path.text)]
  | .valuePath path inner =>
    .object [("op", .string "complex"), ("attr", .string path.text), ("sub_op", document inner)]
  | .negation inner => .object [("op", .string "not"), ("sub_op", document inner)]
  | .chain connective first second more =>
    .object [ ("op", .string connective.name),
      ("sub_ops", .list (document first :: document second :: documents more)) ]

def documents : List Filter → List Value
  | [] => []
  | f :: rest => document f :: documents rest

end

end Filter

end Scim
