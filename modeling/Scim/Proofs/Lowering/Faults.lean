import Scim.Filter.Compile
import Scim.Proofs.Lowering.Plan

/-!
When lowering fails, and how: if and only if a comparison, a presence or a value path is ill-typed in its scope, with
the error that the first such one from left to right gives rise to.
-/

namespace Scim

/-! Paths that do not resolve. -/

/-- Names do not lead from an attribute to sub-attributes: the first that does not is behind an attribute that is not
complex, or is not the name of a sub-attribute. -/
inductive Attribute.Strays (full : AttrPath) : Attribute → List AttrName → ResolutionError → Prop
  | simple {a : Attribute} {name : AttrName} {names : List AttrName} (simple : a.isComplex = false) :
    Strays full a (name :: names) (.invalidPath full (.notComplex a.name))
  | unknown {a : Attribute} {name : AttrName} {names : List AttrName} (complex : a.isComplex = true)
    (absent : a.sub? name.text = none) : Strays full a (name :: names) (.unknownAttribute full name.text)
  | beyond {a sub : Attribute} {name : AttrName} {names : List AttrName} {e : ResolutionError}
    (complex : a.isComplex = true) (found : a.sub? name.text = some sub) (rest : Strays full sub names e) :
    Strays full a (name :: names) e

/-- Resolves a path inside a complex attribute, or at the top level of a resource type. -/
def resolveIn (rt : ResourceType) (parent : Option Resolved) (path : AttrPath) : Except ResolutionError Resolved :=
  match parent with
  | none => resolve rt path
  | some parent => resolveInside parent path

/-- A path does not resolve, and why: its prefix is not the URI of a schema of the resource type, or it has one inside
an attribute, or one of its names is not that of an attribute where it stands. -/
inductive Unresolved (rt : ResourceType) : Option Resolved → AttrPath → ResolutionError → Prop
  | foreign {path : AttrPath} {uri : SchemaUri} (stated : path.schema = some uri)
    (foreign : rt.hasSchema uri.text = false) : Unresolved rt none path (.unknownAttribute path uri.text)
  | unknown {path : AttrPath} (known : ∀ uri, path.schema = some uri → rt.hasSchema uri.text = true)
    (absent : rt.attribute? path.attr.text (path.schema.map (·.text)) = none) :
    Unresolved rt none path (.unknownAttribute path path.attr.text)
  | below {path : AttrPath} {top : Attribute} {e : ResolutionError}
    (known : ∀ uri, path.schema = some uri → rt.hasSchema uri.text = true)
    (found : rt.attribute? path.attr.text (path.schema.map (·.text)) = some top)
    (strays : top.Strays path path.subs e) : Unresolved rt none path e
  | stated {parent : Resolved} {path : AttrPath} {uri : SchemaUri} (stated : path.schema = some uri) :
    Unresolved rt (some parent) path (.invalidPath path .schemaInside)
  | inside {parent : Resolved} {path : AttrPath} {e : ResolutionError} (plain : path.schema = none)
    (strays : parent.attr.Strays (parent.path.child path.segments) path.segments e) :
    Unresolved rt (some parent) path e

section Resolution

variable {rt : ResourceType} {full path : AttrPath} {a : Attribute} {name : AttrName} {names : List AttrName}
  {parent : Option Resolved} {e : ResolutionError}

theorem subOf_of_simple (hsimple : a.isComplex = false) :
    subOf full a name = .error (.invalidPath full (.notComplex a.name)) := by
  simp [subOf, hsimple]

theorem subOf_of_unknown (hcomplex : a.isComplex = true) (habsent : a.sub? name.text = none) :
    subOf full a name = .error (.unknownAttribute full name.text) := by
  simp [subOf, hcomplex, habsent]

theorem follow_eq_error_iff : follow full a names = .error e ↔ a.Strays full names e := by
  constructor
  · intro h
    induction names generalizing a with
    | nil => cases h
    | cons name rest ih =>
      rw [follow] at h
      cases hcomplex : a.isComplex with
      | false =>
        rw [subOf_of_simple hcomplex] at h
        obtain rfl := Except.error.inj h
        exact .simple hcomplex
      | true =>
        cases hfound : a.sub? name.text with
        | none =>
          rw [subOf_of_unknown hcomplex hfound] at h
          obtain rfl := Except.error.inj h
          exact .unknown hcomplex hfound
        | some sub =>
          rw [Filter.subOf_eq_ok_iff.mpr ⟨hcomplex, hfound⟩, Except.ok_bind] at h
          refine .beyond hcomplex hfound (ih ?_)
          cases hrest : follow full sub rest with
          | error e' => exact congrArg Except.error (Except.error.inj (hrest ▸ h))
          | ok more =>
            rw [hrest] at h
            cases h
  · intro h
    induction h with
    | simple simple => rw [follow, subOf_of_simple simple]; rfl
    | unknown complex absent => rw [follow, subOf_of_unknown complex absent]; rfl
    | beyond complex found _ ih => rw [follow, Filter.subOf_eq_ok_iff.mpr ⟨complex, found⟩, Except.ok_bind, ih]; rfl

theorem resolve_of_foreign {uri : SchemaUri} (hstated : path.schema = some uri)
    (hforeign : rt.hasSchema uri.text = false) :
    resolve rt path = .error (.unknownAttribute path uri.text) := by
  unfold resolve
  simp only [hstated, hforeign]
  rfl

theorem resolve_of_unknown (hknown : ∀ uri, path.schema = some uri → rt.hasSchema uri.text = true)
    (habsent : rt.attribute? path.attr.text (path.schema.map (·.text)) = none) :
    resolve rt path = .error (.unknownAttribute path path.attr.text) := by
  unfold resolve
  simp only [habsent]
  cases huri : path.schema with
  | none => rfl
  | some uri =>
    simp only [hknown uri huri]
    rfl

theorem resolve_eq_error_iff : resolve rt path = .error e ↔ Unresolved rt none path e := by
  constructor
  · intro h
    by_cases hknown : ∀ uri, path.schema = some uri → rt.hasSchema uri.text = true
    · cases hfound : rt.attribute? path.attr.text (path.schema.map (·.text)) with
      | none =>
        obtain rfl := Except.error.inj ((resolve_of_unknown hknown hfound).symm.trans h)
        exact .unknown hknown hfound
      | some top =>
        rw [Filter.resolve_eq_follow hknown hfound, ← Except.error?_eq_some_iff, Except.error?_map,
          Except.error?_eq_some_iff] at h
        exact .below hknown hfound (follow_eq_error_iff.mp h)
    · push Not at hknown
      obtain ⟨uri, huri, hforeign⟩ := hknown
      have hforeign : rt.hasSchema uri.text = false := Bool.eq_false_iff.mpr hforeign
      obtain rfl := Except.error.inj ((resolve_of_foreign huri hforeign).symm.trans h)
      exact .foreign huri hforeign
  · intro h
    cases h with
    | foreign stated foreign => exact resolve_of_foreign stated foreign
    | unknown known absent => exact resolve_of_unknown known absent
    | below known found strays =>
      rw [Filter.resolve_eq_follow known found, follow_eq_error_iff.mpr strays]
      rfl

theorem resolveInside_of_plain {parent : Resolved} (hplain : path.schema = none) : resolveInside parent path =
    (follow (parent.path.child path.segments) parent.attr path.segments).map
      (parent.extend (parent.path.child path.segments)) := by
  unfold resolveInside
  rw [Filter.followInside_eq hplain, AttrPath.segments, follow]
  cases subOf _ parent.attr path.attr with
  | error e => rfl
  | ok first =>
    rw [Except.ok_bind, Except.ok_bind]
    cases follow _ first path.subs <;> rfl

theorem resolveInside_of_stated {parent : Resolved} {uri : SchemaUri} (hstated : path.schema = some uri) :
    resolveInside parent path = .error (.invalidPath path .schemaInside) := by
  unfold resolveInside followInside
  rw [hstated]
  rfl

theorem resolveInside_eq_error_iff {parent : Resolved} :
    resolveInside parent path = .error e ↔ Unresolved rt (some parent) path e := by
  constructor
  · intro h
    cases hschema : path.schema with
    | some uri =>
      obtain rfl := Except.error.inj ((resolveInside_of_stated hschema).symm.trans h)
      exact .stated hschema
    | none =>
      rw [resolveInside_of_plain hschema, ← Except.error?_eq_some_iff, Except.error?_map,
        Except.error?_eq_some_iff] at h
      exact .inside hschema (follow_eq_error_iff.mp h)
  · intro h
    cases h with
    | stated stated => exact resolveInside_of_stated stated
    | inside plain strays =>
      rw [resolveInside_of_plain plain, follow_eq_error_iff.mpr strays]
      rfl

theorem resolveIn_eq_error_iff : resolveIn rt parent path = .error e ↔ Unresolved rt parent path e := by
  cases parent with
  | none => exact resolve_eq_error_iff
  | some parent => exact resolveInside_eq_error_iff

/-- A located path is one that resolves in its scope. -/
theorem map_resolved_locate {scope : Option Scope} : (locate rt scope path).map (·.resolved) =
    (resolveIn rt (scope.map (·.resolved)) path).mapError .resolution := by
  cases scope with
  | none =>
    show (((resolve rt path).mapError _ >>= _).map _) = (resolve rt path).mapError _
    cases resolve rt path <;> rfl
  | some s =>
    show (((followInside s.resolved path).mapError _ >>= _).map _) = (followInside s.resolved path >>= _).mapError _
    cases followInside s.resolved path <;> rfl

end Resolution

/-! Nodes that do not fit their scope. -/

/-- What a comparison with an attribute is about: the attribute itself, or the sub-attribute `value` of a complex
one. -/
inductive Resolved.ComparedAs : Resolved → Resolved → Prop
  | self {r : Resolved} (simple : r.attr.isComplex = false) : ComparedAs r r
  | value {r : Resolved} {sub : Attribute} (complex : r.attr.isComplex = true)
    (found : r.attr.sub? "value" = some sub) :
    ComparedAs r (r.extend (r.path.child [sub.name]) [sub])

namespace Filter

/-- A comparison, a presence, or a value path without what is inside. -/
inductive Node
  | comparison (path : AttrPath) (operator : Operator) (literal : Value)
  | presence (path : AttrPath)
  | valuePath (path : AttrPath)

def Node.path : Node → AttrPath
  | comparison path _ _ => path
  | presence path => path
  | valuePath path => path

/-- A node in its scope: the complex attribute that encloses it, if one does. -/
structure Site where
  parent : Option Resolved
  node : Node

mutual

/-- The nodes of a filter from left to right, a value path in front of what is inside.  Where a value path does not
resolve, there is no scope for what is inside. -/
def sites (rt : ResourceType) (parent : Option Resolved) : Filter → List Site
  | .comparison path operator literal => [⟨parent, .comparison path operator literal⟩]
  | .presence path => [⟨parent, .presence path⟩]
  | .valuePath path inner =>
    ⟨parent, .valuePath path⟩ ::
      match resolveIn rt parent path with
      | .ok r => sites rt (some r) inner
      | .error _ => []
  | .negation inner => sites rt parent inner
  | .chain _ first second more => sites rt parent first ++ sites rt parent second ++ sitesOf rt parent more

def sitesOf (rt : ResourceType) (parent : Option Resolved) : List Filter → List Site
  | [] => []
  | f :: rest => sites rt parent f ++ sitesOf rt parent rest

end

namespace Site

/-- A node is ill-typed in its scope, and the error that it gives rise to. -/
inductive Fails (rt : ResourceType) : Site → LoweringError → Prop
  | unresolved {parent : Option Resolved} {node : Node} {e : ResolutionError} (h : Unresolved rt parent node.path e) :
    Fails rt ⟨parent, node⟩ (.resolution e)
  | simpleValuePath {parent : Option Resolved} {path : AttrPath} {r : Resolved}
    (resolved : resolveIn rt parent path = .ok r) (simple : r.attr.isComplex = false) :
    Fails rt ⟨parent, .valuePath path⟩ (.resolution (.invalidPath r.path .simpleValuePath))
  | noValue {parent : Option Resolved} {path : AttrPath} {operator : Operator} {literal : Value} {r : Resolved}
    (resolved : resolveIn rt parent path = .ok r) (complex : r.attr.isComplex = true)
    (absent : r.attr.sub? "value" = none) :
    Fails rt ⟨parent, .comparison path operator literal⟩ (.operatorType r.path operator (some .complex))
  | null {parent : Option Resolved} {path : AttrPath} {operator : Operator} {r target : Resolved}
    (resolved : resolveIn rt parent path = .ok r) (compared : r.ComparedAs target)
    (undefined : operator ≠ .eq ∧ operator ≠ .ne) :
    Fails rt ⟨parent, .comparison path operator .null⟩ (.operatorType target.path operator none)
  | operator {parent : Option Resolved} {path : AttrPath} {operator : Operator} {literal : Value} {r target : Resolved}
    (resolved : resolveIn rt parent path = .ok r) (compared : r.ComparedAs target) (assigned : literal.isNull = false)
    (undefined : operator.supports target.attr.type = false) :
    Fails rt ⟨parent, .comparison path operator literal⟩
      (.operatorType target.path operator (some target.attr.type))
  | literal {parent : Option Resolved} {path : AttrPath} {operator : Operator} {literal : Value} {r target : Resolved}
    (resolved : resolveIn rt parent path = .ok r) (compared : r.ComparedAs target)
    (defined : operator.fits target.attr literal) (mismatch : ∀ v, target.attr.literal literal ≠ .ok v) :
    Fails rt ⟨parent, .comparison path operator literal⟩
      (.typeMismatch target.path literal target.attr.type)

def IllTyped (rt : ResourceType) (site : Site) : Prop :=
  ∃ e, site.Fails rt e

/-- The error of a node whose path resolves. -/
def check : Node → Resolved → Option LoweringError
  | .comparison _ operator literal, r => (Plan.comparison operator literal r).error?
  | .presence _, _ => none
  | .valuePath _, r => if r.attr.isComplex then none else some (.resolution (.invalidPath r.path .simpleValuePath))

/-- The error of a node in its scope, if it is ill-typed. -/
def fault? (rt : ResourceType) (site : Site) : Option LoweringError :=
  match resolveIn rt site.parent site.node.path with
  | .error e => some (.resolution e)
  | .ok r => check site.node r

variable {rt : ResourceType} {parent : Option Resolved} {path : AttrPath} {operator : Operator} {literal : Value}
  {r target : Resolved} {e : LoweringError}

theorem exists_compared_iff : (∃ more, Plan.compared operator r = .ok (more, target)) ↔ r.ComparedAs target := by
  unfold Plan.compared
  constructor
  · rintro ⟨more, h⟩
    split at h
    · rename_i hcomplex
      split at h
      · cases h
      · rename_i sub hsub
        obtain ⟨-, rfl⟩ := Prod.mk.inj (Except.ok.inj h)
        exact .value hcomplex hsub
    · rename_i hsimple
      obtain ⟨-, rfl⟩ := Prod.mk.inj (Except.ok.inj h)
      exact .self (Bool.eq_false_iff.mpr hsimple)
  · intro h
    cases h with
    | self simple => exact ⟨[], by simp [simple]⟩
    | value complex found =>
      rw [if_pos complex, found]
      exact ⟨_, rfl⟩

theorem compared_eq_error_iff : Plan.compared operator r = .error e ↔
    r.attr.isComplex = true ∧ r.attr.sub? "value" = none ∧ e = .operatorType r.path operator (some .complex) := by
  unfold Plan.compared
  cases hcomplex : r.attr.isComplex with
  | false => simp
  | true =>
    have htype : r.attr.type = .complex := of_decide_eq_true hcomplex
    cases hfound : r.attr.sub? "value" with
    | none => simp [htype, eq_comm]
    | some sub => simp

theorem isNull_eq_true_iff : literal.isNull = true ↔ literal = .null := by
  cases literal <;> simp [Value.isNull]

theorem checkOperator_of_assigned (h : literal.isNull = false) : checkOperator r operator literal =
    if operator.supports r.attr.type then .ok () else .error (.operatorType r.path operator (some r.attr.type)) := by
  cases literal with
  | null => cases h
  | _ => rfl

theorem checkOperator_eq_ok_iff : checkOperator r operator literal = .ok () ↔ operator.fits r.attr literal := by
  unfold Operator.fits
  cases hnull : literal.isNull with
  | true =>
    obtain rfl := isNull_eq_true_iff.mp hnull
    by_cases heq : operator = .eq <;> simp [checkOperator, heq]
  | false =>
    rw [checkOperator_of_assigned hnull]
    simp

theorem checkOperator_null_eq_error_iff : checkOperator r operator .null = .error e ↔
    (operator ≠ .eq ∧ operator ≠ .ne) ∧ e = .operatorType r.path operator none := by
  by_cases heq : operator = .eq <;> by_cases hne : operator = .ne <;> simp [checkOperator, heq, hne, eq_comm]

theorem checkOperator_eq_error_iff (h : literal.isNull = false) : checkOperator r operator literal = .error e ↔
    operator.supports r.attr.type = false ∧ e = .operatorType r.path operator (some r.attr.type) := by
  rw [checkOperator_of_assigned h]
  cases operator.supports r.attr.type <;> simp [eq_comm]

/-- A comparison that knows what it is about is ill-typed for three reasons. -/
theorem fails_of_compareWith (hresolved : resolveIn rt parent path = .ok r) (hcompared : r.ComparedAs target)
    (h : Plan.compareWith operator literal target = .error e) :
    Fails rt ⟨parent, .comparison path operator literal⟩ e := by
  unfold Plan.compareWith at h
  cases hcheck : checkOperator target operator literal with
  | error e' =>
    rw [hcheck] at h
    obtain rfl := Except.error.inj h
    cases hnull : literal.isNull with
    | true =>
      obtain rfl := isNull_eq_true_iff.mp hnull
      obtain ⟨hundefined, rfl⟩ := checkOperator_null_eq_error_iff.mp hcheck
      exact .null hresolved hcompared hundefined
    | false =>
      obtain ⟨hundefined, rfl⟩ := (checkOperator_eq_error_iff hnull).mp hcheck
      exact .operator hresolved hcompared hnull hundefined
  | ok _ =>
    rw [hcheck, Except.ok_bind] at h
    cases hliteral : target.attr.literal literal with
    | error _ =>
      rw [hliteral] at h
      obtain rfl := Except.error.inj h
      exact .literal hresolved hcompared (checkOperator_eq_ok_iff.mp hcheck) fun v hv => nomatch hliteral.symm.trans hv
    | ok v =>
      rw [hliteral] at h
      cases h

theorem comparison_of_compared (hcompared : r.ComparedAs target) :
    (Plan.comparison operator literal r).error? = (Plan.compareWith operator literal target).error? := by
  obtain ⟨more, hmore⟩ := exists_compared_iff.mpr hcompared
  rw [Plan.comparison, hmore, Except.ok_bind]
  exact Except.error?_bind_ok fun _ => rfl

/-- A comparison whose path resolves is ill-typed if and only if its plan fails. -/
theorem fails_comparison_iff (hresolved : resolveIn rt parent path = .ok r) :
    Fails rt ⟨parent, .comparison path operator literal⟩ e ↔ (Plan.comparison operator literal r).error? = some e := by
  constructor
  · intro h
    cases h with
    | unresolved h => exact nomatch (resolveIn_eq_error_iff.mpr h).symm.trans hresolved
    | noValue resolved complex absent =>
      obtain rfl := Except.ok.inj (resolved.symm.trans hresolved)
      rw [Plan.comparison, compared_eq_error_iff.mpr ⟨complex, absent, rfl⟩]
      rfl
    | null resolved compared undefined =>
      obtain rfl := Except.ok.inj (resolved.symm.trans hresolved)
      rw [comparison_of_compared compared, Plan.compareWith, checkOperator_null_eq_error_iff.mpr ⟨undefined, rfl⟩]
      rfl
    | operator resolved compared assigned undefined =>
      obtain rfl := Except.ok.inj (resolved.symm.trans hresolved)
      rw [comparison_of_compared compared, Plan.compareWith,
        (checkOperator_eq_error_iff assigned).mpr ⟨undefined, rfl⟩]
      rfl
    | literal resolved compared defined mismatch =>
      obtain rfl := Except.ok.inj (resolved.symm.trans hresolved)
      rw [comparison_of_compared compared, Plan.compareWith, checkOperator_eq_ok_iff.mpr defined, Except.ok_bind]
      cases hliteral : Attribute.literal _ literal with
      | error _ => rfl
      | ok v => exact absurd hliteral (mismatch v)
  · intro h
    cases hcompared : Plan.compared operator r with
    | error e' =>
      rw [Plan.comparison, hcompared] at h
      obtain rfl := Option.some.inj h
      obtain ⟨hcomplex, habsent, rfl⟩ := compared_eq_error_iff.mp hcompared
      exact .noValue hresolved hcomplex habsent
    | ok found =>
      have htarget := exists_compared_iff.mp ⟨found.1, hcompared⟩
      rw [comparison_of_compared htarget, Except.error?_eq_some_iff] at h
      exact fails_of_compareWith hresolved htarget h

/-- The error of a node is the one that says why it is ill-typed. -/
theorem fault?_eq_some_iff {site : Site} : site.fault? rt = some e ↔ site.Fails rt e := by
  obtain ⟨parent, node⟩ := site
  unfold fault?
  cases hresolved : resolveIn rt parent node.path with
  | error e' =>
    have hunresolved := resolveIn_eq_error_iff.mp hresolved
    constructor
    · intro h
      obtain rfl := Option.some.inj h
      exact .unresolved hunresolved
    · intro h
      cases h with
      | unresolved h =>
        obtain rfl := Except.error.inj ((resolveIn_eq_error_iff.mpr h).symm.trans hresolved)
        rfl
      | simpleValuePath resolved _ => exact nomatch resolved.symm.trans hresolved
      | noValue resolved _ _ => exact nomatch resolved.symm.trans hresolved
      | null resolved _ _ => exact nomatch resolved.symm.trans hresolved
      | operator resolved _ _ _ => exact nomatch resolved.symm.trans hresolved
      | literal resolved _ _ _ => exact nomatch resolved.symm.trans hresolved
  | ok r =>
    cases node with
    | comparison path operator literal =>
      exact (fails_comparison_iff hresolved).symm
    | presence path =>
      refine ⟨nofun, fun h => ?_⟩
      cases h with
      | unresolved h => exact nomatch (resolveIn_eq_error_iff.mpr h).symm.trans hresolved
    | valuePath path =>
      show (if r.attr.isComplex then none else some (.resolution (.invalidPath r.path .simpleValuePath))) = some e ↔ _
      constructor
      · intro h
        split at h
        · cases h
        · rename_i hsimple
          obtain rfl := Option.some.inj h
          exact .simpleValuePath hresolved (Bool.eq_false_iff.mpr hsimple)
      · intro h
        cases h with
        | unresolved h => exact nomatch (resolveIn_eq_error_iff.mpr h).symm.trans hresolved
        | simpleValuePath resolved simple =>
          obtain rfl := Except.ok.inj (resolved.symm.trans hresolved)
          rw [simple]
          rfl

theorem fault?_eq_none_iff {site : Site} : site.fault? rt = none ↔ ¬ site.IllTyped rt := by
  rw [← Option.not_isSome_iff_eq_none, Option.isSome_iff_exists]
  exact not_congr (exists_congr fun e => fault?_eq_some_iff)

end Site

/-! Lowering stops at the first node that does not fit. -/

theorem error?_alongPath {build : Place → Attribute → Except LoweringError Predicate} {failure : Option LoweringError}
    (hbuild : ∀ p a, (build p a).error? = failure) (p : Place) (a : Attribute) (rest : List Attribute) :
    (alongPath build p a rest).error? = failure := by
  induction rest generalizing p a with
  | nil => exact hbuild p a
  | cons b rest ih =>
    rw [alongPath]
    split
    · rw [Except.error?_map, ih]
    · exact ih _ b

variable {rt : ResourceType}

/-- What stands at a path fails if the path does not resolve, else if its plan does, else if what is built does. -/
theorem error?_lowerAs {scope : Option Scope} {path : AttrPath} {plan : Plan}
    {failure : Resolved → Option LoweringError}
    (hbuild : ∀ r more build, plan r = .ok (more, build) → ∀ p a, (build p a).error? = failure r) :
    (lowerAs rt scope path plan).error? =
      match resolveIn rt (scope.map (·.resolved)) path with
      | .error e => some (.resolution e)
      | .ok r => (plan r).error?.or (failure r) := by
  have hlocate : (locate rt scope path).map (·.resolved) = _ := map_resolved_locate
  unfold lowerAs
  cases hl : locate rt scope path with
  | error e =>
    rw [hl] at hlocate
    cases hresolved : resolveIn rt (scope.map (·.resolved)) path with
    | error e' =>
      rw [hresolved] at hlocate
      obtain rfl := Except.error.inj hlocate
      rfl
    | ok r =>
      rw [hresolved] at hlocate
      cases hlocate
  | ok l =>
    rw [hl] at hlocate
    cases hresolved : resolveIn rt (scope.map (·.resolved)) path with
    | error e' =>
      rw [hresolved] at hlocate
      cases hlocate
    | ok r =>
      rw [hresolved] at hlocate
      obtain rfl : l.resolved = r := Except.ok.inj hlocate
      rw [Except.ok_bind]
      exact Except.error?_bind fun planned hplanned => error?_alongPath (hbuild _ _ _ hplanned) _ _ _

mutual

theorem error?_lowerIn : ∀ {f : Filter} {scope : Option Scope},
    (lowerIn rt scope f).error? = (f.sites rt (scope.map (·.resolved))).findSome? (Site.fault? rt)
  | .comparison path operator literal, scope => by
    have hbuild : ∀ r more build, Plan.comparison operator literal r = .ok (more, build) →
        ∀ p a, (build p a).error? = none := by
      intro r more build h p a
      simp only [Plan.comparison, Except.bind_eq_ok_iff] at h
      obtain ⟨_, -, v, -, h⟩ := h
      obtain ⟨-, rfl⟩ := Prod.mk.inj (Except.ok.inj h)
      rfl
    rw [lowerIn, lowerComparison_eq, error?_lowerAs hbuild, sites, List.findSome?_singleton, Site.fault?]
    simp only [Option.or_none]
    rfl
  | .presence path, scope => by
    have hbuild : ∀ r more build, Plan.presence r = .ok (more, build) → ∀ p a, (build p a).error? = none := by
      intro r more build h p a
      obtain ⟨-, rfl⟩ := Prod.mk.inj (Except.ok.inj h)
      rfl
    rw [lowerIn, lowerPresence_eq, error?_lowerAs hbuild, sites, List.findSome?_singleton, Site.fault?]
    rfl
  | .valuePath path inner, scope => by
    have hbuild : ∀ r more build, Plan.valuePath (fun s => lowerIn rt (some s) inner) r = .ok (more, build) →
        ∀ p a, (build p a).error? = (inner.sites rt (some r)).findSome? (Site.fault? rt) := by
      intro r more build h p a
      unfold Plan.valuePath at h
      split at h
      · obtain ⟨-, rfl⟩ := Prod.mk.inj (Except.ok.inj h)
        -- whether in an element or not, the inner filter is read in the same attribute
        dsimp only
        split
        · rw [Except.error?_map]
          exact error?_lowerIn
        · exact error?_lowerIn
      · cases h
    rw [lowerIn, lowerValuePath_eq, error?_lowerAs hbuild, sites, List.findSome?_cons, Site.fault?]
    dsimp only [Node.path]
    cases resolveIn rt (scope.map (·.resolved)) path with
    | error e => rfl
    | ok r =>
      dsimp only [Plan.valuePath, Site.check]
      cases r.attr.isComplex <;> rfl
  | .negation inner, scope => by
    rw [sites, ← error?_lowerIn]
    exact Except.error?_bind_ok fun _ => rfl
  | .chain connective first second more, scope => by
    rw [sites, List.findSome?_append, List.findSome?_append, ← error?_lowerIn, ← error?_lowerIn, ← error?_lowerAll,
      Option.or_assoc]
    simp only [lowerIn]
    exact Except.error?_bind fun _ _ => Except.error?_bind fun _ _ => Except.error?_bind_ok fun _ => rfl

theorem error?_lowerAll : ∀ {fs : List Filter} {scope : Option Scope},
    (lowerAll rt scope fs).error? = (sitesOf rt (scope.map (·.resolved)) fs).findSome? (Site.fault? rt)
  | [], _ => by rw [lowerAll, sitesOf]; rfl
  | f :: rest, scope => by
    rw [sitesOf, List.findSome?_append, ← error?_lowerIn, ← error?_lowerAll, lowerAll]
    exact Except.error?_bind fun _ _ => Except.error?_bind_ok fun _ => rfl

end

theorem toError_cases (e : LoweringError) :
    (∃ path segment, e.toError = .unknownAttribute path segment) ∨
      (∃ path reason, e.toError = .invalidPath path reason) ∨
      (∃ path operator type, e.toError = .operatorType path operator type) ∨
      ∃ path literal type, e.toError = .typeMismatch path literal type := by
  cases e with
  | resolution e =>
    cases e with
    | unknownAttribute path segment => exact .inl ⟨_, _, rfl⟩
    | invalidPath path fault => exact .inr (.inl ⟨_, _, rfl⟩)
  | operatorType path operator type => exact .inr (.inr (.inl ⟨_, _, _, rfl⟩))
  | typeMismatch path literal type => exact .inr (.inr (.inr ⟨_, _, _, rfl⟩))

/-- A filter lowers if and only if all its nodes are well-typed in their scopes.  If not, the error is that of the first
one from left to right that is ill-typed, where a value path comes before what is inside, and what clients are told is
one of four errors. -/
theorem lower_fails_iff (rt : ResourceType) (f : Filter) :
    ((∃ p, lower rt f = .ok p) ↔ ∀ site ∈ f.sites rt none, ¬ site.IllTyped rt) ∧
      (∀ e, lower rt f = .error e ↔ ∃ before site after, f.sites rt none = before ++ site :: after ∧
        (∀ earlier ∈ before, ¬ earlier.IllTyped rt) ∧ site.Fails rt e) ∧
      ∀ error, toPredicate rt f = .error error →
        (∃ path segment, error = .unknownAttribute path segment) ∨ (∃ path reason, error = .invalidPath path reason) ∨
          (∃ path operator type, error = .operatorType path operator type) ∨
          ∃ path literal type, error = .typeMismatch path literal type := by
  have hfirst : (lower rt f).error? = (f.sites rt none).findSome? (Site.fault? rt) := error?_lowerIn
  refine ⟨?_, fun e => ?_, fun error h => ?_⟩
  · rw [← Except.error?_eq_none_iff, hfirst, List.findSome?_eq_none_iff]
    exact forall₂_congr fun site _ => Site.fault?_eq_none_iff
  · rw [← Except.error?_eq_some_iff, hfirst, List.findSome?_eq_some_iff]
    simp only [Site.fault?_eq_none_iff, Site.fault?_eq_some_iff]
    constructor
    · rintro ⟨before, site, after, heq, hfails, hbefore⟩
      exact ⟨before, site, after, heq, hbefore, hfails⟩
    · rintro ⟨before, site, after, heq, hbefore, hfails⟩
      exact ⟨before, site, after, heq, hfails, hbefore⟩
  · unfold toPredicate at h
    cases hlower : lower rt f with
    | ok p =>
      rw [hlower] at h
      cases h
    | error e =>
      rw [hlower] at h
      obtain rfl := Except.error.inj h
      exact toError_cases e

/-! Meters with readings. -/

def level : Attribute where
  name := ⟨"level", .refl true⟩
  type := .decimal

def readings : Attribute where
  name := ⟨"readings", .refl true⟩
  type := .complex
  multiValued := true
  subAttributes := [level]

def meterType : ResourceType where
  name := "Meter"
  endpoint := "/Meters"
  schema := ⟨"urn:meter", .refl true⟩
  description := ""
  extensions := []
  attributes := [readings]

/-- The filter `readings[level sw "1"] and owner pr`, of which two nodes are ill-typed. -/
def meterFilter : Filter :=
  .chain .and
    (.valuePath ⟨none, readings.name, []⟩ (.comparison ⟨none, level.name, []⟩ .sw (.string "1")))
    (.presence ⟨none, ⟨"owner", .refl true⟩, []⟩) []

theorem lower_fails_iff_meter :
    lower meterType meterFilter =
        .error (.operatorType ⟨none, readings.name, [level.name]⟩ .sw (some .decimal)) ∧
      (∃ before site after, meterFilter.sites meterType none = before ++ site :: after ∧
        (∀ earlier ∈ before, ¬ earlier.IllTyped meterType) ∧
        site.Fails meterType (.operatorType ⟨none, readings.name, [level.name]⟩ .sw (some .decimal))) ∧
      ∃ site ∈ meterFilter.sites meterType none, site.IllTyped meterType := by
  have hlower : lower meterType meterFilter =
      .error (.operatorType ⟨none, readings.name, [level.name]⟩ .sw (some .decimal)) := by rfl
  obtain ⟨hsucceeds, hfails, -⟩ := lower_fails_iff meterType meterFilter
  refine ⟨hlower, (hfails _).mp hlower, by_contra fun hnone => ?_⟩
  push Not at hnone
  obtain ⟨p, hp⟩ := hsucceeds.mpr hnone
  cases hlower.symm.trans hp

end Filter

end Scim
