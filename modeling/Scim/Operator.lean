import Scim.Attribute

/-!
The operators of filters.
-/

namespace Scim

/-- An operator that compares an attribute with a literal. -/
inductive Operator
  | eq
  | ne
  | co
  | sw
  | ew
  | gt
  | ge
  | lt
  | le
  deriving DecidableEq, Repr

namespace Operator

def all : List Operator := [.eq, .ne, .co, .sw, .ew, .gt, .ge, .lt, .le]

def name : Operator → String
  | .eq => "eq"
  | .ne => "ne"
  | .co => "co"
  | .sw => "sw"
  | .ew => "ew"
  | .gt => "gt"
  | .ge => "ge"
  | .lt => "lt"
  | .le => "le"

def ofName? (text : String) : Option Operator :=
  all.find? (·.name = text)

/-- The operator that a value names. -/
def ofValue (v : Value) : Except NotAMember Operator :=
  memberNamed "ComparisonOperator" all name v

def isOrdering : Operator → Bool
  | .gt => true
  | .ge => true
  | .lt => true
  | .le => true
  | _ => false

def isSubstring : Operator → Bool
  | .co => true
  | .sw => true
  | .ew => true
  | _ => false

/-- Whether the operator is defined for values of a type. -/
def supports (operator : Operator) (type : AttributeType) : Bool :=
  if operator.isSubstring then type = .string || type = .reference
  else if operator.isOrdering then
    match type with
    | .string => true
    | .reference => true
    | .integer => true
    | .decimal => true
    | .dateTime => true
    | _ => false
  else true

end Operator

/-- An operator that combines conditions. -/
inductive LogicalOperator
  | and
  | or
  | not
  deriving DecidableEq, Repr

namespace LogicalOperator

def all : List LogicalOperator := [.and, .or, .not]

def name : LogicalOperator → String
  | .and => "and"
  | .or => "or"
  | .not => "not"

/-- The operator that a value names. -/
def ofValue (v : Value) : Except NotAMember LogicalOperator :=
  memberNamed "LogicalOperator" all name v

end LogicalOperator

end Scim
