import Scim.Cypher.Text

/-!
How conditions are evaluated on nodes.  Null spreads through comparisons, and the connectives know it as a third
outcome beside true and false.
-/

namespace Scim.Cypher

/-- The outcome of a condition; `none` is null. -/
abbrev Truth := Option Bool

namespace Truth

def and : Truth → Truth → Truth
  | some false, _ => some false
  | _, some false => some false
  | some true, some true => some true
  | _, _ => none

def or : Truth → Truth → Truth
  | some true, _ => some true
  | _, some true => some true
  | some false, some false => some false
  | _, _ => none

def allOf (outcomes : List Truth) : Truth :=
  outcomes.foldr and (some true)

def anyOf (outcomes : List Truth) : Truth :=
  outcomes.foldr or (some false)

variable {x : Truth} {outcomes : List Truth}

theorem allOf_cons_eq_true_iff :
    allOf (x :: outcomes) = some true ↔ x = some true ∧ allOf outcomes = some true := by
  show and x (allOf outcomes) = some true ↔ _
  rcases x with - | - | - <;> rcases allOf outcomes with - | - | - <;> simp [and]

theorem anyOf_cons_eq_true_iff :
    anyOf (x :: outcomes) = some true ↔ x = some true ∨ anyOf outcomes = some true := by
  show or x (anyOf outcomes) = some true ↔ _
  rcases x with - | - | - <;> rcases anyOf outcomes with - | - | - <;> simp [or]

theorem anyOf_eq_true_iff : anyOf outcomes = some true ↔ some true ∈ outcomes := by
  induction outcomes with
  | nil => simp [anyOf]
  | cons x rest ih => rw [anyOf_cons_eq_true_iff, ih, List.mem_cons, eq_comm]

-- No outcome is null unless one of the members is.
theorem anyOf_map_some (outcomes : List Bool) : anyOf (outcomes.map some) = some (outcomes.any id) := by
  induction outcomes with
  | nil => rfl
  | cons x rest ih =>
    show or (some x) (anyOf (rest.map some)) = _
    rw [ih, List.any_cons]
    cases x <;> cases rest.any id <;> rfl

end Truth

/-! Values of properties. -/

/-- The kinds of values; only values of one kind are equal or have an order. -/
inductive Kind
  | null
  | truth
  | number
  | text
  | instant
  | list
  | map
  deriving DecidableEq

def kind : Value → Kind
  | .missing => .null
  | .null => .null
  | .bool _ => .truth
  | .integer _ => .number
  | .decimal _ => .number
  | .string _ => .text
  | .dateTime _ => .instant
  | .list _ => .list
  | .object _ => .map

def isNull (v : Value) : Bool :=
  kind v = .null

def equal (v w : Value) : Truth :=
  if isNull v || isNull w then none else some (kind v = kind w && v.same w)

def before (v w : Value) : Truth :=
  if kind v = kind w then v.lt? w else none

/-- A test of a text against another; other values have no outcome. -/
def textual (test : List Char → List Char → Bool) : Value → Value → Truth
  | .string s, .string t => some (test t.toList s.toList)
  | _, _ => none

/-- The outcome of a comparison. -/
def compare (operator : Operator) (v w : Value) : Truth :=
  match operator with
  | .eq => equal v w
  | .ne => (equal v w).map (!·)
  | .co => textual Text.occursIn v w
  | .sw => textual List.isPrefixOf v w
  | .ew => textual List.isSuffixOf v w
  | .gt => before w v
  | .ge => Truth.or (before w v) (equal v w)
  | .lt => before v w
  | .le => Truth.or (before v w) (equal v w)

def toLower : Value → Value
  | .string s => .string (Text.lower s)
  | _ => .null

/-- What a condition compares: a value, or its lower-case form. -/
def operand (folded : Bool) (v : Value) : Value :=
  if folded then toLower v else v

def coalesce (v w : Value) : Value :=
  if isNull v then w else v

/-- The outcome for some item of a list; null has no items to tell of. -/
def anyItemOf (test : Value → Truth) : Value → Truth
  | .list items => Truth.anyOf (items.map test)
  | _ => none

/-! Nodes. -/

/-- A node with its properties, and the nodes that it is related with. -/
inductive Node
  | mk (properties : Fields) (relations : List (String × Node))

namespace Node

def properties : Node → Fields
  | mk properties _ => properties

def relations : Node → List (String × Node)
  | mk _ relations => relations

/-- The value of a property. -/
def property (key : String) (n : Node) : Value :=
  Fields.value key n.properties

/-- The nodes at the other end of a relation. -/
def related (relation : String) (n : Node) : List Node :=
  (n.relations.filter fun r => r.1 = relation).map (·.2)

end Node

/-- The nodes that variables are bound to. -/
abbrev Binding := Variable → Node

def Binding.bind (env : Binding) (x : Variable) (n : Node) : Binding :=
  fun y => if y = x then n else env y

namespace Condition

mutual

/-- The outcome of a condition. -/
def evaluate (parameters : List Value) : Condition → Binding → Truth
  | .compare property folded operator parameter, env =>
    Cypher.compare operator (operand folded ((env property.node).property property.key))
      (parameters.getD parameter .null)
  | .compareAny property folded operator parameter, env =>
    anyItemOf (fun v => Cypher.compare operator (operand folded v) (parameters.getD parameter .null))
      ((env property.node).property property.key)
  | .hasItem property expected, env =>
    (anyItemOf (fun v => Cypher.compare .ne v (.string ""))
      (coalesce ((env property.node).property property.key) (.list []))).map (· == expected)
  | .hasText property expected, env =>
    (Cypher.compare .ne (coalesce ((env property.node).property property.key) (.string ""))
      (.string "")).map (· == expected)
  | .hasValue property expected, env => some ((!isNull ((env property.node).property property.key)) == expected)
  | .hasElement node relation, env => some (!((env node).related relation).isEmpty)
  | .anyElement node relation element inner, env =>
    some (((env node).related relation).any fun n =>
      evaluate parameters inner (env.bind (.element element) n) == some true)
  | .anyPart parts, env => Truth.anyOf (evaluateAll parameters parts env)
  | .chain .and members, env => Truth.allOf (evaluateAll parameters members env)
  | .chain .or members, env => Truth.anyOf (evaluateAll parameters members env)
  | .negation inner, env => some (!(evaluate parameters inner env).getD false)

def evaluateAll (parameters : List Value) : List Condition → Binding → List Truth
  | [], _ => []
  | c :: rest, env => evaluate parameters c env :: evaluateAll parameters rest env

end

theorem evaluateAll_eq_map (parameters : List Value) (conditions : List Condition) (env : Binding) :
    evaluateAll parameters conditions env = conditions.map fun c => c.evaluate parameters env := by
  induction conditions with
  | nil => rfl
  | cons c rest ih => rw [evaluateAll, ih, List.map_cons]

end Condition

/-- Whether a query with the clause, and with its parameters, gives a node. -/
def Clause.selects (clause : Clause) (n : Node) : Bool :=
  clause.condition.evaluate clause.parameters (fun _ => n) == some true

end Scim.Cypher
