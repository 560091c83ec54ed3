import Scim.Attribute
import Scim.DateTime.Text
import Scim.Operator

/-!
Conditions on records, with every attribute resolved and every literal of its attribute's type.
-/

namespace Scim

/-- Where a value stands in a record, or in an element of a list in it. -/
structure PropertyRef where
  /-- The keys to follow. -/
  steps : List String
  /-- The attribute that the value belongs to. -/
  attr : Attribute
  /-- The extension in whose container the first key is looked up. -/
  extension : Option String := none

namespace PropertyRef

/-- Steps as one key, with the extension in front. -/
def keyOf (extension : Option String) (steps : List String) : String :=
  let dotted := ".".intercalate steps
  match extension with
  | some uri => uri ++ ":" ++ dotted
  | none => dotted

/-- The reference as one key. -/
def key (ref : PropertyRef) : String :=
  keyOf ref.extension ref.steps

/-- The value that the reference leads to. -/
def get (ref : PropertyRef) (record : Value) : Value :=
  match ref.extension with
  | some uri => (record.get uri).getPath ref.steps
  | none => record.getPath ref.steps

/-- The assigned values that the reference leads to. -/
def values (ref : PropertyRef) (record : Value) : List Value :=
  let items :=
    match ref.get record with
    | .list items => items
    | v => [v]
  items.filter (!·.isEmpty)

end PropertyRef

inductive Predicate
  /-- Some value compares with the literal; the null literal stands for "no value". -/
  | compare (ref : PropertyRef) (operator : Operator) (literal : Value)
  /-- There is a value. -/
  | present (ref : PropertyRef)
  | logical (operator : LogicalOperator) (children : List Predicate)
  /-- Some element of a list satisfies the inner predicate. -/
  | anyElement (ref : PropertyRef) (inner : Predicate)

namespace Predicate

/-- A literal in a document; a date-time is written as its text. -/
def literalDocument : Value → Value
  | .dateTime t => .string t.isoText
  | v => v

mutual

/-- The predicate as a tree of objects. -/
def document : Predicate → Value
  | .compare ref operator literal =>
    .object
      [ ("op", .string operator.name), ("ref", .string ref.key), ("value", literalDocument literal) ]
  | .present ref => .object [("op", .string "exists"), ("ref", .string ref.key)]
  | .logical operator children =>
    .object [("op", .string operator.name), ("children", .list (documents children))]
  | .anyElement ref inner =>
    .object [("op", .string "any"), ("ref", .string ref.key), ("predicate", document inner)]

def documents : List Predicate → List Value
  | [] => []
  | p :: rest => document p :: documents rest

end

end Predicate

end Scim
