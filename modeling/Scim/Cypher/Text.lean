import Scim.Cypher.Condition

/-!
Conditions and queries as Cypher texts.
-/

namespace Scim.Cypher

def Variable.text : Variable → String
  | .resource name => name
  | .element number => "e" ++ toString number

def Property.text (p : Property) : String :=
  p.node.text ++ "." ++ quote p.key

def parameterName (number : Nat) : String :=
  "p" ++ toString number

def symbol : Operator → String
  | .eq => "="
  | .ne => "<>"
  | .co => "CONTAINS"
  | .sw => "STARTS WITH"
  | .ew => "ENDS WITH"
  | .gt => ">"
  | .ge => ">="
  | .lt => "<"
  | .le => "<="

/-- An operand, in lower case if it is folded. -/
def operandText (folded : Bool) (operand : String) : String :=
  if folded then "toLower(" ++ operand ++ ")" else operand

def comparisonText (operand : String) (operator : Operator) (parameter : Nat) : String :=
  operand ++ " " ++ symbol operator ++ " $" ++ parameterName parameter

def keyword : Connective → String
  | .and => "AND"
  | .or => "OR"

/-- The pattern of a relation from a node to an element. -/
def patternText (node : Variable) (relation element : String) : String :=
  "MATCH (" ++ node.text ++ ")-[:" ++ quote relation ++ "]->(" ++ element ++ ")"

def subqueryText (inner : String) : String :=
  "EXISTS \x7b " ++ inner ++ " \x7d"

namespace Condition

def isChain : Condition → Bool
  | .chain .. => true
  | _ => false

/-- A condition as a member of a chain, from its own text. -/
def memberText (c : Condition) (text : String) : String :=
  if c.isChain then "(" ++ text ++ ")" else text

mutual

def text : Condition → String
  | .compare property folded operator parameter =>
    comparisonText (operandText folded property.text) operator parameter
  | .compareAny property folded operator parameter =>
    "ANY(v IN " ++ property.text ++ " WHERE " ++
      comparisonText (operandText folded "v") operator parameter ++ ")"
  | .hasItem property expected =>
    (if expected then "ANY" else "NONE") ++ "(v IN coalesce(" ++ property.text ++
      ", []) WHERE v <> '')"
  | .hasText property expected =>
    "coalesce(" ++ property.text ++ ", '') " ++ (if expected then "<>" else "=") ++ " ''"
  | .hasValue property expected =>
    property.text ++ (if expected then " IS NOT NULL" else " IS NULL")
  | .hasElement node relation => subqueryText (patternText node relation "")
  | .anyElement node relation element inner =>
    subqueryText
      (patternText node relation (Variable.element element).text ++ " WHERE " ++ text inner)
  | .anyPart parts =>
    match partTexts parts with
    | [] => "false"
    | texts => "(" ++ " OR ".intercalate texts ++ ")"
  | .chain connective members =>
    (" " ++ keyword connective ++ " ").intercalate (memberTexts members)
  | .negation inner => "NOT coalesce(" ++ text inner ++ ", false)"

def partTexts : List Condition → List String
  | [] => []
  | c :: rest => text c :: partTexts rest

def memberTexts : List Condition → List String
  | [] => []
  | c :: rest => memberText c (text c) :: memberTexts rest

end

end Condition

/-- A condition with the parameters to pass along. -/
structure Clause where
  condition : Condition
  parameters : List Value

/-- The condition of a predicate on the resource node bound to the variable `root`. -/
def Clause.ofPredicate (root : String) (p : Predicate) : Except Untranslatable Clause := do
  let (condition, n) ← Condition.ofPredicate (.resource root) p {}
  return ⟨condition, n.parameters⟩

namespace Clause

/-- The text behind `WHERE`. -/
def text (c : Clause) : String :=
  c.condition.text

def names (c : Clause) : List String :=
  (List.range c.parameters.length).map parameterName

/-- The parameters under their names. -/
def parameterFields (c : Clause) : Fields :=
  c.names.zip c.parameters

end Clause

/-- The query for the resource nodes of a label that satisfy a condition, if there is one. -/
def queryText (root label : String) (condition : Option String) : String :=
  "MATCH (" ++ root ++ ":" ++ quote label ++ ")" ++
    (match condition with
      | some text => " WHERE " ++ text
      | none => "") ++
    " RETURN " ++ root

end Scim.Cypher
