import Scim.Cypher.Name
import Scim.Filter
import Scim.Operator
import Scim.Predicate

/-!
Conditions of Cypher queries over resources stored as nodes.  Simple values are properties; single
complex values are flattened into the keys of properties; the elements of lists of complex values are nodes
of their own, related by the attribute's key.
-/

namespace Scim.Cypher

/-- A variable bound to a node: the resource, or an element of a list. -/
inductive Variable
  | resource (name : String)
  | element (number : Nat)
  deriving DecidableEq, Repr

structure Property where
  node : Variable
  key : String
  deriving DecidableEq, Repr

/-- A condition.  Parameters and elements have numbers. -/
inductive Condition
  /-- Compares a property with a parameter; a folded one is brought to lower case. -/
  | compare (property : Property) (folded : Bool) (operator : Operator) (parameter : Nat)
  /-- Compares some item of a list property with a parameter. -/
  | compareAny (property : Property) (folded : Bool) (operator : Operator) (parameter : Nat)
  /-- Whether a list property has an item that is not the empty text. -/
  | hasItem (property : Property) (expected : Bool)
  /-- Whether a text property is there and not empty. -/
  | hasText (property : Property) (expected : Bool)
  | hasValue (property : Property) (expected : Bool)
  /-- Whether an element is related to the node. -/
  | hasElement (node : Variable) (relation : String)
  /-- Whether an element that satisfies a condition is related to the node. -/
  | anyElement (node : Variable) (relation : String) (element : Nat) (inner : Condition)
  /-- One of some conditions about parts of a complex value. -/
  | anyPart (parts : List Condition)
  | chain (connective : Connective) (members : List Condition)
  /-- The inner condition does not hold; an unknown outcome counts as not holding. -/
  | negation (inner : Condition)

/-- The literals that are passed as parameters, and the number of element variables in use. -/
structure Numbering where
  parameters : List Value := []
  elements : Nat := 0

namespace Numbering

/-- Takes up a parameter and gives its number. -/
def addParameter (n : Numbering) (v : Value) : Nat × Numbering :=
  (n.parameters.length, { n with parameters := n.parameters ++ [v] })

def addElement (n : Numbering) : Nat × Numbering :=
  (n.elements, { n with elements := n.elements + 1 })

end Numbering

/-- Why a predicate has no condition. -/
inductive Untranslatable
  /-- A literal that is no text is compared without regard to case. -/
  | notText
  /-- A negation of nothing. -/
  | noOperand
  deriving DecidableEq, Repr

/-- Whether the values of an attribute are compared in lower case. -/
def isFolded (a : Attribute) : Bool :=
  (a.type = .string || a.type = .reference) && !a.caseExact

/-- Whether the values of a type are texts. -/
def isTextType : AttributeType → Bool
  | .string => true
  | .reference => true
  | .binary => true
  | _ => false

/-- Whether a simple attribute is assigned. -/
def assignedAs (node : Variable) (key : String) (a : Attribute) (expected : Bool) : Condition :=
  let property : Property := ⟨node, key⟩
  if a.multiValued then .hasItem property expected
  else if isTextType a.type then .hasText property expected
  else .hasValue property expected

mutual

/-- Whether an attribute, to which steps lead, is assigned. -/
def presentAs (node : Variable) (extension : Option String) (steps : List String) : Attribute → Condition
  | ⟨name, type, multiValued, required, mutability, uniqueness, returned, caseExact, description,
      canonicalValues, referenceTypes, subAttributes, schema⟩ =>
    match type, multiValued with
    | .complex, true => .hasElement node (PropertyRef.keyOf extension steps)
    | .complex, false => .anyPart (presentParts node extension steps subAttributes)
    | _, _ =>
      assignedAs node (PropertyRef.keyOf extension steps)
        ⟨name, type, multiValued, required, mutability, uniqueness, returned, caseExact, description,
          canonicalValues, referenceTypes, subAttributes, schema⟩ true

def presentParts (node : Variable) (extension : Option String) (steps : List String) :
    List Attribute → List Condition
  | [] => []
  | a :: rest =>
    presentAs node extension (steps ++ [a.name.text]) a :: presentParts node extension steps rest

end

def presentOf (node : Variable) (ref : PropertyRef) : Condition :=
  presentAs node ref.extension ref.steps ref.attr

/-- The literal as it is passed for values that are compared in lower case, or as they are. -/
def parameterFor (a : Attribute) (literal : Value) : Except Untranslatable Value :=
  if isFolded a then
    match literal with
    | .string s => .ok (.string (Text.lower s))
    | _ => .error .notText
  else .ok literal

def compareOf (node : Variable) (ref : PropertyRef) (operator : Operator) (literal : Value) (n : Numbering) :
    Except Untranslatable (Condition × Numbering) :=
  match literal with
  | .null => .ok (assignedAs node ref.key ref.attr (operator ≠ .eq), n)
  | _ => do
    let (parameter, n) := n.addParameter (← parameterFor ref.attr literal)
    let property : Property := ⟨node, ref.key⟩
    if ref.attr.multiValued then
      return (.compareAny property (isFolded ref.attr) operator parameter, n)
    else return (.compare property (isFolded ref.attr) operator parameter, n)

mutual

/-- The condition of a predicate on a node.  Parameters and elements are numbered from left to right. -/
def Condition.ofPredicate (node : Variable) : Predicate → Numbering →
    Except Untranslatable (Condition × Numbering)
  | .compare ref operator literal, n => compareOf node ref operator literal n
  | .present ref, n => .ok (presentOf node ref, n)
  | .logical .and children, n => do
    let (members, n) ← ofPredicates node children n
    return (.chain .and members, n)
  | .logical .or children, n => do
    let (members, n) ← ofPredicates node children n
    return (.chain .or members, n)
  | .logical .not [], _ => .error .noOperand
  | .logical .not (child :: _), n => do
    let (inner, n) ← ofPredicate node child n
    return (.negation inner, n)
  | .anyElement ref inner, n => do
    let (element, n) := n.addElement
    let (condition, n) ← ofPredicate (.element element) inner n
    return (.anyElement node ref.key element condition, n)

def Condition.ofPredicates (node : Variable) : List Predicate → Numbering →
    Except Untranslatable (List Condition × Numbering)
  | [], n => .ok ([], n)
  | p :: rest, n => do
    let (first, n) ← ofPredicate node p n
    let (more, n) ← ofPredicates node rest n
    return (first :: more, n)

end

end Scim.Cypher
