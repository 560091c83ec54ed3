import Scim.Proofs.Lowering.Faults
import Scim.Proofs.Lowering.Literals

/-!
Lowering respects the equality of filters.  A predicate has the names of attributes and not those of paths, so it does
not show how a filter spells them: equal filters lower to equal predicates, or fail alike.
-/

namespace Scim

/-! What equal paths lead to. -/

/-- Two errors of resolution are the same, but for the case of the paths. -/
inductive ResolutionError.Alike : ResolutionError → ResolutionError → Prop
  | unknownAttribute {p q : AttrPath} {s t : String} (path : p.same q = true) (segment : Text.lower s = Text.lower t) :
    Alike (.unknownAttribute p s) (.unknownAttribute q t)
  | invalidPath {p q : AttrPath} {fault : PathFault} (path : p.same q = true) :
    Alike (.invalidPath p fault) (.invalidPath q fault)

/-- Two errors of lowering are the same, but for the case of the paths and for equal literals of one type. -/
inductive LoweringError.Alike : LoweringError → LoweringError → Prop
  | resolution {e e' : ResolutionError} (alike : e.Alike e') : Alike (.resolution e) (.resolution e')
  | operatorType {p q : AttrPath} {operator : Operator} {type : Option AttributeType} (path : p.same q = true) :
    Alike (.operatorType p operator type) (.operatorType q operator type)
  | typeMismatch {p q : AttrPath} {v w : Value} {type : AttributeType} (path : p.same q = true)
    (literal : v.identical w = true) : Alike (.typeMismatch p v type) (.typeMismatch q w type)

/-- Two paths lead to the same attributes, and differ in case only. -/
structure Resolved.Alike (r r' : Resolved) : Prop where
  path : r.path.same r'.path = true
  top : r.top = r'.top
  below : r.below = r'.below

structure Scope.Alike (s s' : Scope) : Prop where
  resolved : s.resolved.Alike s'.resolved
  place : s.place = s'.place

structure Located.Alike (l l' : Located) : Prop where
  place : l.place = l'.place
  first : l.first = l'.first
  more : l.more = l'.more
  resolved : l.resolved.Alike l'.resolved

namespace Resolved

variable {r r' : Resolved}

theorem Alike.attr_eq (h : r.Alike r') : r.attr = r'.attr := by
  rw [attr, attr, h.top, h.below]

theorem Alike.extend (h : r.Alike r') {p q : AttrPath} (hpath : p.same q = true) (more : List Attribute) :
    (r.extend p more).Alike (r'.extend q more) :=
  ⟨hpath, h.top, congrArg (· ++ more) h.below⟩

end Resolved

namespace AttrPath

variable {p q : AttrPath}

theorem same_iff : p.same q = true ↔ p.attr.folded = q.attr.folded ∧
    p.subs.map AttrName.folded = q.subs.map AttrName.folded ∧
      p.schema.map SchemaUri.folded = q.schema.map SchemaUri.folded := by
  rw [same, Bool.and_eq_true, decide_eq_true_eq, decide_eq_true_eq, segments, segments, List.map_cons, List.map_cons,
    List.cons_eq_cons, and_assoc]

theorem segments_of_same (h : p.same q = true) :
    p.segments.map AttrName.folded = q.segments.map AttrName.folded :=
  of_decide_eq_true ((Bool.and_eq_true _ _).mp h).1

theorem same_child (h : p.same q = true) {names names' : List AttrName}
    (hnames : names.map AttrName.folded = names'.map AttrName.folded) :
    (p.child names).same (q.child names') = true := by
  obtain ⟨hattr, hsubs, hschema⟩ := same_iff.mp h
  refine same_iff.mpr ⟨hattr, ?_, hschema⟩
  show (p.subs ++ names).map AttrName.folded = (q.subs ++ names').map AttrName.folded
  rw [List.map_append, List.map_append, hsubs, hnames]

end AttrPath

theorem Attribute.sub?_congr (a : Attribute) {name name' : AttrName} (h : name.folded = name'.folded) :
    a.sub? name.text = a.sub? name'.text := by
  have htext : Text.lower name.text = Text.lower name'.text := h
  simp only [sub?, AttrName.isSpelled, htext]

namespace ResourceType

variable (rt : ResourceType)

theorem hasSchema_congr {uri uri' : SchemaUri} (h : uri.folded = uri'.folded) :
    rt.hasSchema uri.text = rt.hasSchema uri'.text := by
  have htext : Text.lower uri.text = Text.lower uri'.text := h
  simp only [hasSchema, SchemaUri.isSpelled, htext]

theorem attribute?_congr {p q : AttrPath} (h : p.same q = true) :
    rt.attribute? p.attr.text (p.schema.map (·.text)) = rt.attribute? q.attr.text (q.schema.map (·.text)) := by
  obtain ⟨hattr, -, hschema⟩ := AttrPath.same_iff.mp h
  have htext : Text.lower p.attr.text = Text.lower q.attr.text := hattr
  cases hp : p.schema with
  | none =>
    rw [hp, Option.map_none, eq_comm, Option.map_eq_none_iff] at hschema
    simp only [attribute?, AttrName.isSpelled, htext, hschema, Option.map_none]
  | some uri =>
    rw [hp, Option.map_some, eq_comm] at hschema
    obtain ⟨uri', hq, huri⟩ := Option.map_eq_some_iff.mp hschema
    have huri : Text.lower uri'.text = Text.lower uri.text := huri
    simp only [attribute?, AttrName.isSpelled, SchemaUri.isSpelled, htext, hq, Option.map_some, huri]

end ResourceType

/-! Resolution. -/

namespace Filter

variable {rt : ResourceType} {p q : AttrPath} {names names' : List AttrName} {r r' : Resolved}

theorem subOf_related (h : p.same q = true) (a : Attribute) {name name' : AttrName}
    (hname : name.folded = name'.folded) : (subOf p a name).Related ResolutionError.Alike Eq (subOf q a name') := by
  unfold subOf
  rw [a.sub?_congr hname]
  split
  · exact .error (.invalidPath h)
  · split
    · exact .ok rfl
    · exact .error (.unknownAttribute h hname)

theorem follow_related (h : p.same q = true) (a : Attribute)
    (hnames : names.map AttrName.folded = names'.map AttrName.folded) :
    (follow p a names).Related ResolutionError.Alike Eq (follow q a names') := by
  induction names generalizing a names' with
  | nil =>
    obtain rfl := List.map_eq_nil_iff.mp hnames.symm
    exact .ok rfl
  | cons name rest ih =>
    obtain ⟨name', rest', rfl, hname, hrest⟩ := List.map_eq_cons_iff.mp hnames.symm
    refine (subOf_related h a hname.symm).bind ?_
    rintro sub _ rfl
    refine (ih sub hrest.symm).bind ?_
    rintro below _ rfl
    exact .ok rfl

/-- Paths that differ in case only lead to the same attributes, or fail alike. -/
theorem resolve_related (rt : ResourceType) (h : p.same q = true) :
    (resolve rt p).Related ResolutionError.Alike Resolved.Alike (resolve rt q) := by
  obtain ⟨hattr, hsubs, hschema⟩ := AttrPath.same_iff.mp h
  by_cases hknown : ∀ uri, p.schema = some uri → rt.hasSchema uri.text = true
  · have hknown' : ∀ uri, q.schema = some uri → rt.hasSchema uri.text = true := by
      intro uri huri
      rw [huri, Option.map_some] at hschema
      obtain ⟨uri', huri', hfolded⟩ := Option.map_eq_some_iff.mp hschema
      rw [← rt.hasSchema_congr hfolded]
      exact hknown uri' huri'
    have hfound := rt.attribute?_congr h
    cases hp : rt.attribute? p.attr.text (p.schema.map (·.text)) with
    | none =>
      rw [resolve_of_unknown hknown hp, resolve_of_unknown hknown' (hfound.symm.trans hp)]
      exact .error (.unknownAttribute h hattr)
    | some top =>
      rw [resolve_eq_follow hknown hp, resolve_eq_follow hknown' (hfound.symm.trans hp)]
      refine (follow_related h top hsubs).map ?_
      rintro below _ rfl
      exact ⟨h, rfl, rfl⟩
  · push Not at hknown
    obtain ⟨uri, huri, hforeign⟩ := hknown
    have hforeign : rt.hasSchema uri.text = false := Bool.eq_false_iff.mpr hforeign
    rw [huri, Option.map_some, eq_comm] at hschema
    obtain ⟨uri', huri', hfolded⟩ := Option.map_eq_some_iff.mp hschema
    rw [resolve_of_foreign huri hforeign, resolve_of_foreign huri' ((rt.hasSchema_congr hfolded).trans hforeign)]
    exact .error (.unknownAttribute h hfolded.symm)

theorem followInside_related (hr : r.Alike r') (h : p.same q = true) :
    (followInside r p).Related ResolutionError.Alike (fun x y => x.1.same y.1 = true ∧ x.2 = y.2)
      (followInside r' q) := by
  obtain ⟨hattr, hsubs, hschema⟩ := AttrPath.same_iff.mp h
  cases hp : p.schema with
  | some uri =>
    rw [hp, Option.map_some, eq_comm] at hschema
    obtain ⟨uri', hq, -⟩ := Option.map_eq_some_iff.mp hschema
    unfold followInside
    rw [hp, hq]
    exact .error (.invalidPath h)
  | none =>
    rw [hp, Option.map_none, eq_comm, Option.map_eq_none_iff] at hschema
    have hfull := AttrPath.same_child hr.path (AttrPath.segments_of_same h)
    rw [followInside_eq hp, followInside_eq hschema, hr.attr_eq]
    refine (subOf_related hfull _ hattr).bind ?_
    rintro first _ rfl
    refine (follow_related hfull first hsubs).bind ?_
    rintro more _ rfl
    exact .ok ⟨hfull, rfl⟩

theorem locate_related (rt : ResourceType) {scope scope' : Option Scope} (hscope : Option.Rel Scope.Alike scope scope')
    (h : p.same q = true) : (locate rt scope p).Related LoweringError.Alike Located.Alike (locate rt scope' q) := by
  cases hscope with
  | none =>
    refine ((resolve_related rt h).mapError fun e e' => LoweringError.Alike.resolution).bind fun r r' hr => .ok ?_
    exact ⟨by rw [hr.top], hr.top, hr.below, hr⟩
  | some hs =>
    refine ((followInside_related hs.resolved h).mapError fun e e' => LoweringError.Alike.resolution).bind ?_
    rintro ⟨full, first, more⟩ ⟨full', first', more'⟩ ⟨hfull, hadded⟩
    obtain ⟨rfl, rfl⟩ := Prod.mk.inj hadded
    exact .ok ⟨hs.place, rfl, rfl, hs.resolved.extend hfull _⟩

end Filter

/-! Building. -/

namespace Predicate

mutual

/-- Two predicates are equal: the same but for equal literals of one type. -/
inductive Equal : Predicate → Predicate → Prop
  | compare {ref : PropertyRef} {operator : Operator} {v w : Value} (literal : v.identical w = true) :
    Equal (.compare ref operator v) (.compare ref operator w)
  | present {ref : PropertyRef} : Equal (.present ref) (.present ref)
  | logical {operator : LogicalOperator} {ps qs : List Predicate} (children : AllEqual ps qs) :
    Equal (.logical operator ps) (.logical operator qs)
  | anyElement {ref : PropertyRef} {p q : Predicate} (inner : Equal p q) :
    Equal (.anyElement ref p) (.anyElement ref q)

inductive AllEqual : List Predicate → List Predicate → Prop
  | nil : AllEqual [] []
  | cons {p q : Predicate} {ps qs : List Predicate} (head : Equal p q) (tail : AllEqual ps qs) :
    AllEqual (p :: ps) (q :: qs)

end

mutual

/-- The keys of all references, from left to right. -/
def keys : Predicate → List String
  | .compare ref _ _ => [ref.key]
  | .present ref => [ref.key]
  | .logical _ children => keysOf children
  | .anyElement ref inner => ref.key :: keys inner

def keysOf : List Predicate → List String
  | [] => []
  | p :: rest => keys p ++ keysOf rest

end

mutual

theorem Equal.keys_eq : ∀ {p q : Predicate}, p.Equal q → p.keys = q.keys
  | _, _, .compare _ => rfl
  | _, _, .present => rfl
  | _, _, .logical children => children.keysOf_eq
  | _, _, .anyElement inner => congrArg (_ :: ·) inner.keys_eq

theorem AllEqual.keysOf_eq : ∀ {ps qs : List Predicate}, AllEqual ps qs → keysOf ps = keysOf qs
  | _, _, .nil => rfl
  | _, _, .cons head tail => congrArg₂ (· ++ ·) head.keys_eq tail.keysOf_eq

end

end Predicate

open Predicate (Equal AllEqual)

theorem alongPath_related {build build' : Place → Attribute → Except LoweringError Predicate}
    (h : ∀ p a, (build p a).Related LoweringError.Alike Equal (build' p a)) (p : Place) (a : Attribute)
    (rest : List Attribute) :
    (alongPath build p a rest).Related LoweringError.Alike Equal (alongPath build' p a rest) := by
  induction rest generalizing p a with
  | nil => exact h p a
  | cons b rest ih =>
    rw [alongPath, alongPath]
    split
    · exact (ih .element b).map fun _ _ => .anyElement
    · exact ih (p.enter a) b

namespace Plan

/-- Two plans pass the same attributes and build equal predicates, or fail alike, where paths lead to the same ones. -/
def Congruent (plan plan' : Plan) : Prop :=
  ∀ r r', r.Alike r' → (plan r).Related LoweringError.Alike
    (fun x y => x.1 = y.1 ∧ ∀ p a, (x.2 p a).Related LoweringError.Alike Equal (y.2 p a)) (plan' r')

theorem compared_related (operator : Operator) {r r' : Resolved} (h : r.Alike r') :
    (compared operator r).Related LoweringError.Alike (fun x y => x.1 = y.1 ∧ x.2.Alike y.2)
      (compared operator r') := by
  unfold compared
  rw [h.attr_eq]
  split
  · split
    · exact .error (.operatorType h.path)
    · exact .ok ⟨rfl, h.extend (AttrPath.same_child h.path rfl) _⟩
  · exact .ok ⟨rfl, h⟩

theorem checkOperator_related (operator : Operator) {r r' : Resolved} (h : r.Alike r') {v w : Value}
    (hliteral : v.identical w = true) :
    (checkOperator r operator v).Related LoweringError.Alike Eq (checkOperator r' operator w) := by
  have hnull : v.isNull = w.isNull := Value.isNull_of_identical hliteral
  cases hv : v.isNull with
  | true =>
    obtain rfl := Filter.Site.isNull_eq_true_iff.mp hv
    obtain rfl := Filter.Site.isNull_eq_true_iff.mp (hnull.symm.trans hv)
    unfold checkOperator
    dsimp only
    split
    · exact .ok rfl
    · exact .error (.operatorType h.path)
  | false =>
    rw [Filter.Site.checkOperator_of_assigned hv, Filter.Site.checkOperator_of_assigned (hnull.symm.trans hv),
      h.attr_eq]
    split
    · exact .ok rfl
    · exact .error (.operatorType h.path)

theorem compareWith_related (operator : Operator) {r r' : Resolved} (h : r.Alike r') {v w : Value}
    (hliteral : v.identical w = true) : (compareWith operator v r).Related LoweringError.Alike
      (fun x y => x.identical y = true) (compareWith operator w r') := by
  refine (checkOperator_related operator h hliteral).bind fun _ _ _ => ?_
  rw [h.attr_eq]
  have hrelated := r'.attr.literal_related hliteral
  generalize r'.attr.literal v = x, r'.attr.literal w = y at hrelated ⊢
  cases hrelated with
  | ok related => exact .ok related
  | error _ => exact .error (.typeMismatch h.path hliteral)

theorem comparison_congruent (operator : Operator) {v w : Value} (h : v.identical w = true) :
    (comparison operator v).Congruent (comparison operator w) := by
  intro r r' hr
  refine (compared_related operator hr).bind ?_
  rintro ⟨more, target⟩ ⟨_, target'⟩ ⟨rfl, htarget⟩
  exact (compareWith_related operator htarget h).bind fun x y hxy => .ok ⟨rfl, fun _ _ => .ok (.compare hxy)⟩

theorem presence_congruent : presence.Congruent presence :=
  fun _ _ _ => .ok ⟨rfl, fun _ _ => .ok .present⟩

theorem valuePath_congruent {inner inner' : Scope → Except LoweringError Predicate}
    (h : ∀ s s', s.Alike s' → (inner s).Related LoweringError.Alike Equal (inner' s')) :
    (valuePath inner).Congruent (valuePath inner') := by
  intro r r' hr
  unfold valuePath
  rw [hr.attr_eq]
  split
  · refine .ok ⟨rfl, fun p a => ?_⟩
    dsimp only
    split
    · exact (h ⟨r, .element⟩ ⟨r', .element⟩ ⟨hr, rfl⟩).map fun _ _ => .anyElement
    · exact h ⟨r, p.enter a⟩ ⟨r', p.enter a⟩ ⟨hr, rfl⟩
  · exact .error (.resolution (.invalidPath hr.path))

end Plan

namespace Filter

variable {rt : ResourceType} {scope scope' : Option Scope}

theorem lowerAs_related (hscope : Option.Rel Scope.Alike scope scope') {p q : AttrPath} (hpath : p.same q = true)
    {plan plan' : Plan} (hplan : plan.Congruent plan') :
    (lowerAs rt scope p plan).Related LoweringError.Alike Equal (lowerAs rt scope' q plan') := by
  refine (locate_related rt hscope hpath).bind fun l l' hl => (hplan _ _ hl.resolved).bind ?_
  rintro ⟨more, build⟩ ⟨_, build'⟩ ⟨rfl, hbuild⟩
  dsimp only
  rw [hl.place, hl.first, hl.more]
  exact alongPath_related hbuild _ _ _

mutual

theorem lowerIn_related (rt : ResourceType) : ∀ {f g : Filter} {scope scope' : Option Scope}, f.same g = true →
    Option.Rel Scope.Alike scope scope' →
      (lowerIn rt scope f).Related LoweringError.Alike Equal (lowerIn rt scope' g)
  | .comparison p o v, g, _, _, h, hscope => by
    cases g with
    | comparison q o' w =>
      rw [same, Bool.and_eq_true, Bool.and_eq_true, decide_eq_true_eq] at h
      obtain ⟨⟨hpath, rfl⟩, hliteral⟩ := h
      rw [lowerIn, lowerIn, lowerComparison_eq, lowerComparison_eq]
      exact lowerAs_related hscope hpath (Plan.comparison_congruent o hliteral)
    | _ => exact absurd h Bool.false_ne_true
  | .presence p, g, _, _, h, hscope => by
    cases g with
    | presence q =>
      rw [lowerIn, lowerIn, lowerPresence_eq, lowerPresence_eq]
      exact lowerAs_related hscope h Plan.presence_congruent
    | _ => exact absurd h Bool.false_ne_true
  | .valuePath p f, g, _, _, h, hscope => by
    cases g with
    | valuePath q g =>
      rw [same, Bool.and_eq_true] at h
      rw [lowerIn, lowerIn, lowerValuePath_eq, lowerValuePath_eq]
      exact lowerAs_related hscope h.1 (Plan.valuePath_congruent fun s s' hs => lowerIn_related rt h.2 (.some hs))
    | _ => exact absurd h Bool.false_ne_true
  | .negation f, g, _, _, h, hscope => by
    cases g with
    | negation g =>
      rw [lowerIn, lowerIn]
      exact (lowerIn_related rt (f := f) h hscope).bind fun p q hpq => .ok (.logical (.cons hpq .nil))
    | _ => exact absurd h Bool.false_ne_true
  | .chain c f₁ f₂ fs, g, _, _, h, hscope => by
    cases g with
    | chain d g₁ g₂ gs =>
      rw [same, Bool.and_eq_true, Bool.and_eq_true, Bool.and_eq_true, decide_eq_true_eq] at h
      obtain ⟨⟨⟨rfl, h₁⟩, h₂⟩, hmore⟩ := h
      simp only [lowerIn]
      refine (lowerIn_related rt h₁ hscope).bind fun p₁ q₁ hp₁ => ?_
      refine (lowerIn_related rt h₂ hscope).bind fun p₂ q₂ hp₂ => ?_
      exact (lowerAll_related rt hmore hscope).bind fun ps qs hps => .ok (.logical (.cons hp₁ (.cons hp₂ hps)))
    | _ => exact absurd h Bool.false_ne_true

theorem lowerAll_related (rt : ResourceType) : ∀ {fs gs : List Filter} {scope scope' : Option Scope},
    sameAll fs gs = true → Option.Rel Scope.Alike scope scope' →
      (lowerAll rt scope fs).Related LoweringError.Alike AllEqual (lowerAll rt scope' gs)
  | [], [], _, _, _, _ => .ok .nil
  | f :: fs, g :: gs, _, _, h, hscope => by
    rw [sameAll, Bool.and_eq_true] at h
    rw [lowerAll, lowerAll]
    refine (lowerIn_related rt h.1 hscope).bind fun p q hpq => ?_
    exact (lowerAll_related rt h.2 hscope).bind fun ps qs hps => .ok (.cons hpq hps)

end

/-- Filters that are equal but for the case of their paths lower to equal predicates, whose references have the same
keys, or they are rejected with errors of the same class about the same path and literal. -/
theorem lower_respects_same (rt : ResourceType) {f g : Filter} (h : f.same g = true) :
    (∃ p q, lower rt f = .ok p ∧ lower rt g = .ok q ∧ p.Equal q ∧ p.keys = q.keys) ∨
      ∃ e e', lower rt f = .error e ∧ lower rt g = .error e' ∧ e.Alike e' := by
  rcases (lowerIn_related rt h .none).outcomes with ⟨p, q, hp, hq, equal⟩ | fails
  · exact .inl ⟨p, q, hp, hq, equal, equal.keys_eq⟩
  · exact .inr fails

/-- The zero of a sign. -/
def signedZero (negative : Bool) : Value :=
  .decimal (.finite negative 0 (by decide +kernel))

/-- `devices.ports.number gt "20" and urn:load:weight eq 0.0`, with two of the names as they are spelled. -/
def loadedFilter (list extension : String) (zero : Value) (hlist : isAttrName list.toList = true := by decide)
    (hextension : isSchemaUri extension.toList = true := by decide) : Filter :=
  .chain .and (.comparison ⟨none, ⟨list, hlist⟩, [ports.name, portNumber.name]⟩ .gt (.string "20"))
    (.comparison ⟨some ⟨extension, hextension⟩, weight.name, []⟩ .eq zero) []

/-- The presence of an attribute that racks do not have. -/
def ownedFilter (name : String) (hname : isAttrName name.toList = true := by decide) : Filter :=
  .presence ⟨none, ⟨name, hname⟩, []⟩

theorem lower_respects_same_rack :
    (∃ p q, lower rackType (loadedFilter "Devices" "URN:Load" (signedZero true)) = .ok p ∧
      lower rackType (loadedFilter "deviceS" "urn:load" (signedZero false)) = .ok q ∧ p.Equal q ∧ p.keys = q.keys) ∧
    ∃ e e', lower rackType (ownedFilter "owner") = .error e ∧ lower rackType (ownedFilter "Owner") = .error e' ∧
      e.Alike e' := by
  have hloaded : (loadedFilter "Devices" "URN:Load" (signedZero true)).same
      (loadedFilter "deviceS" "urn:load" (signedZero false)) = true := by decide
  have howned : (ownedFilter "owner").same (ownedFilter "Owner") = true := by decide
  refine ⟨(lower_respects_same rackType hloaded).resolve_right ?_,
    (lower_respects_same rackType howned).resolve_left ?_⟩
  · rintro ⟨e, -, he, -⟩
    have hsucceeds : (lower rackType (loadedFilter "Devices" "URN:Load" (signedZero true))).isOk = true := by
      decide +kernel
    rw [he] at hsucceeds
    cases hsucceeds
  · rintro ⟨p, -, hp, -⟩
    have hfails : (lower rackType (ownedFilter "owner")).isOk = false := by decide
    rw [hp] at hfails
    cases hfails

end Filter

end Scim
