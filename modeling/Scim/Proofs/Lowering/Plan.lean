import Scim.Proofs.Lowering.Chains

/-!
Lowering of a single condition or value path in three steps: its path is located, what stands there is checked and tells
what to build, and that is built along the path.
-/

namespace Scim

/-- What to do at the end of a path, by what the path resolves to: attributes that are passed behind it, and what is
built for the last one. -/
abbrev Plan := Resolved → Except LoweringError (List Attribute × (Place → Attribute → Except LoweringError Predicate))

namespace Plan

/-- The attributes behind a path that are compared instead of its own one, with what the longer path resolves to. -/
def compared (operator : Operator) (r : Resolved) : Except LoweringError (List Attribute × Resolved) :=
  if r.attr.isComplex then
    match r.attr.sub? "value" with
    | none => .error (.operatorType r.path operator (some r.attr.type))
    | some sub => .ok ([sub], r.extend (r.path.child [sub.name]) [sub])
  else .ok ([], r)

/-- The literal that an attribute is compared with. -/
def compareWith (operator : Operator) (literal : Value) (r : Resolved) : Except LoweringError Value := do
  checkOperator r operator literal
  match r.attr.literal literal with
  | .error _ => throw (.typeMismatch r.path literal r.attr.type)
  | .ok v => return v

def comparison (operator : Operator) (literal : Value) : Plan := fun r => do
  let (more, target) ← compared operator r
  let v ← compareWith operator literal target
  return (more, fun p a => .ok (.compare (p.ref a) operator v))

def presence : Plan := fun _ =>
  .ok ([], fun p a => .ok (.present (p.ref a)))

def valuePath (inner : Scope → Except LoweringError Predicate) : Plan := fun r =>
  if r.attr.isComplex then
    .ok ([], fun p a =>
      if a.multiValued then (inner ⟨r, .element⟩).map (.anyElement (p.ref a)) else inner ⟨r, p.enter a⟩)
  else .error (.resolution (.invalidPath r.path .simpleValuePath))

end Plan

/-- Lowers what stands at a path by a plan. -/
def lowerAs (rt : ResourceType) (scope : Option Scope) (path : AttrPath) (plan : Plan) :
    Except LoweringError Predicate := do
  let l ← locate rt scope path
  let (more, build) ← plan l.resolved
  alongPath build l.place l.first (l.more ++ more)

variable {rt : ResourceType} {scope : Option Scope} {path : AttrPath}

theorem toComparable_eq (operator : Operator) (l : Located) : toComparable operator l =
    (Plan.compared operator l.resolved).map fun (more, r) => { l with more := l.more ++ more, resolved := r } := by
  unfold toComparable Plan.compared
  by_cases hcomplex : l.resolved.attr.isComplex = true
  · simp only [hcomplex, if_true]
    cases l.resolved.attr.sub? "value" <;> rfl
  · simp [hcomplex, Except.map]

theorem lowerComparison_eq (operator : Operator) (literal : Value) :
    lowerComparison rt scope path operator literal = lowerAs rt scope path (.comparison operator literal) := by
  unfold lowerComparison lowerAs
  apply bind_congr
  intro l
  rw [toComparable_eq, Plan.comparison]
  cases Plan.compared operator l.resolved with
  | error e => rfl
  | ok compared =>
    obtain ⟨more, target⟩ := compared
    show (checkOperator target operator literal >>= fun _ => _) = (Plan.compareWith operator literal target >>= _) >>= _
    rw [Plan.compareWith, bind_assoc, bind_assoc]
    apply bind_congr
    intro _
    cases target.attr.literal literal <;> rfl

theorem lowerPresence_eq : lowerPresence rt scope path = lowerAs rt scope path .presence := by
  unfold lowerPresence lowerAs
  apply bind_congr
  intro l
  simp [Plan.presence, Except.ok_bind]

theorem lowerValuePath_eq (inner : Scope → Except LoweringError Predicate) :
    lowerValuePath rt scope path inner = lowerAs rt scope path (.valuePath inner) := by
  unfold lowerValuePath lowerAs Plan.valuePath
  apply bind_congr
  intro l
  by_cases hcomplex : l.resolved.attr.isComplex = true
  · simp [hcomplex, Except.ok_bind]
  · simp only [hcomplex]
    rfl

end Scim
