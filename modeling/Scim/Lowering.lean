import Scim.Attribute.Literal
import Scim.Filter
import Scim.Predicate
import Scim.Resolution

/-!
Lowering of filters: paths are resolved and literals brought to the type of their attribute.  Where a
path passes a list of complex values, the predicate asks for one element that satisfies the rest.
-/

namespace Scim

/-- Why a filter does not fit a resource type. -/
inductive LoweringError
  | resolution (e : ResolutionError)
  /-- The operator is not defined for the type, or for the null literal if there is none. -/
  | operatorType (path : AttrPath) (operator : Operator) (type : Option AttributeType)
  | typeMismatch (path : AttrPath) (literal : Value) (type : AttributeType)

/-- Where references start: in a record or in an element of a list, with the single complex attributes
that have been entered there. -/
structure Place where
  /-- The extension that references at the top level of a record belong to. -/
  extension : Option String
  entered : List Attribute

namespace Place

/-- The place inside an element of a list. -/
def element : Place := ⟨none, []⟩

def enter (p : Place) (a : Attribute) : Place :=
  { p with entered := p.entered ++ [a] }

/-- The reference to an attribute at a place. -/
def ref (p : Place) (a : Attribute) : PropertyRef :=
  { steps := (p.entered ++ [a]).map (·.name.text)
    attr := a
    extension := p.extension }

end Place

/-- The inside of a complex attribute, in which a value path is read. -/
structure Scope where
  resolved : Resolved
  place : Place

/-- Builds a predicate for the attribute at the end of a path from `a` through `rest`. -/
def alongPath (build : Place → Attribute → Except LoweringError Predicate) (p : Place) (a : Attribute) :
    List Attribute → Except LoweringError Predicate
  | [] => build p a
  | b :: rest =>
    if a.isComplex && a.multiValued then
      (alongPath build .element b rest).map (.anyElement (p.ref a))
    else alongPath build (p.enter a) b rest

/-- A path in a scope: where it starts, the attributes it adds and what it resolves to. -/
structure Located where
  place : Place
  first : Attribute
  more : List Attribute
  resolved : Resolved

/-- Resolves a path in a scope, or at the top level of a resource type. -/
def locate (rt : ResourceType) (scope : Option Scope) (path : AttrPath) :
    Except LoweringError Located :=
  match scope with
  | none => do
    let r ← (resolve rt path).mapError .resolution
    return ⟨⟨rt.extensionOf? r.top, []⟩, r.top, r.below, r⟩
  | some s => do
    let (full, first, more) ← (followInside s.resolved path).mapError .resolution
    return ⟨s.place, first, more, s.resolved.extend full (first :: more)⟩

/-- A comparison with a complex attribute is one with its sub-attribute `value`. -/
def toComparable (operator : Operator) (l : Located) : Except LoweringError Located :=
  if l.resolved.attr.isComplex then
    match l.resolved.attr.sub? "value" with
    | none => .error (.operatorType l.resolved.path operator (some l.resolved.attr.type))
    | some sub =>
      let path := l.resolved.path.child [sub.name]
      .ok { l with more := l.more ++ [sub], resolved := l.resolved.extend path [sub] }
  else .ok l

/-- Only `eq` and `ne` compare with null; other literals need an operator for the attribute's type. -/
def checkOperator (r : Resolved) (operator : Operator) (literal : Value) : Except LoweringError Unit :=
  match literal with
  | .null =>
    if operator = .eq || operator = .ne then .ok () else .error (.operatorType r.path operator none)
  | _ =>
    if operator.supports r.attr.type then .ok ()
    else .error (.operatorType r.path operator (some r.attr.type))

def lowerComparison (rt : ResourceType) (scope : Option Scope) (path : AttrPath) (operator : Operator)
    (literal : Value) : Except LoweringError Predicate := do
  let l ← toComparable operator (← locate rt scope path)
  checkOperator l.resolved operator literal
  match l.resolved.attr.literal literal with
  | .error _ => throw (.typeMismatch l.resolved.path literal l.resolved.attr.type)
  | .ok v => alongPath (fun p a => .ok (.compare (p.ref a) operator v)) l.place l.first l.more

def lowerPresence (rt : ResourceType) (scope : Option Scope) (path : AttrPath) :
    Except LoweringError Predicate := do
  let l ← locate rt scope path
  alongPath (fun p a => .ok (.present (p.ref a))) l.place l.first l.more

/-- A value path over a list asks for one element; one over a single value continues where it is. -/
def lowerValuePath (rt : ResourceType) (scope : Option Scope) (path : AttrPath)
    (inner : Scope → Except LoweringError Predicate) : Except LoweringError Predicate := do
  let l ← locate rt scope path
  if !l.resolved.attr.isComplex then
    throw (.resolution (.invalidPath l.resolved.path .simpleValuePath))
  alongPath
    (fun p a =>
      if a.multiValued then (inner ⟨l.resolved, .element⟩).map (.anyElement (p.ref a))
      else inner ⟨l.resolved, p.enter a⟩)
    l.place l.first l.more

mutual

/-- Lowers a filter inside a scope, or at the top level. -/
def lowerIn (rt : ResourceType) : Option Scope → Filter → Except LoweringError Predicate
  | scope, .comparison path operator literal => lowerComparison rt scope path operator literal
  | scope, .presence path => lowerPresence rt scope path
  | scope, .valuePath path inner =>
    lowerValuePath rt scope path fun s => lowerIn rt (some s) inner
  | scope, .negation inner => do
    return .logical .not [← lowerIn rt scope inner]
  | scope, .chain connective first second more => do
    let operator : LogicalOperator :=
      match connective with
      | .and => .and
      | .or => .or
    let p ← lowerIn rt scope first
    let q ← lowerIn rt scope second
    return .logical operator (p :: q :: (← lowerAll rt scope more))

def lowerAll (rt : ResourceType) : Option Scope → List Filter → Except LoweringError (List Predicate)
  | _, [] => .ok []
  | scope, f :: rest => do
    let p ← lowerIn rt scope f
    return p :: (← lowerAll rt scope rest)

end

/-- Lowers a filter against a resource type. -/
def lower (rt : ResourceType) (f : Filter) : Except LoweringError Predicate :=
  lowerIn rt none f

end Scim
