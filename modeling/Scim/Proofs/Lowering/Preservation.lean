import Scim.Lowering
import Scim.Proofs.Lowering.Meaning

/-!
Lowering preserves the meaning of filters.
-/

namespace Scim

/-- What a place is in a record, or in the element of a list that references start in. -/
def Place.valueIn (p : Place) (record : Value) : Value :=
  let container :=
    match p.extension with
    | some uri => record.get uri
    | none => record
  container.getPath (p.entered.map (·.name.text))

namespace Place

theorem getPath_append (names : List String) (name : String) (v : Value) :
    v.getPath (names ++ [name]) = (v.getPath names).get name := by
  induction names generalizing v with
  | nil => rfl
  | cons first rest ih => exact ih (v.get first)

theorem valueIn_enter (p : Place) (a : Attribute) (record : Value) :
    (p.enter a).valueIn record = (p.valueIn record).get a.name.text := by
  rw [valueIn, enter, List.map_append]
  exact getPath_append _ _ _

-- A reference leads to the values of its attribute at its place.
theorem values_ref (p : Place) (a : Attribute) (record : Value) :
    (p.ref a).values record = Filter.assigned a (p.valueIn record) := by
  have hget : (p.ref a).get record = (p.valueIn record).get a.name.text := by
    rw [← valueIn_enter]
    unfold PropertyRef.get ref valueIn enter
    cases p.extension <;> rfl
  rw [PropertyRef.values, hget]
  rfl

end Place

namespace Filter

/-! What a scope of the lowering stands for. -/

/-- The complex attribute that a scope is the inside of. -/
def ownerOf (scope : Option Scope) : Option Attribute :=
  scope.map (·.resolved.attr)

/-- The value that a scope is in a record. -/
def scopeIn (scope : Option Scope) (record : Value) : Value :=
  match scope with
  | none => record
  | some s => s.place.valueIn record

theorem sub?_of_subOf {full : AttrPath} {a sub : Attribute} {name : AttrName}
    (h : subOf full a name = .ok sub) : a.sub? name.text = some sub := by
  unfold subOf at h
  split at h
  · exact nomatch h
  · split at h
    · next found hfound => rw [hfound, Except.ok.inj h]
    · exact nomatch h

theorem descend?_of_follow {full : AttrPath} {a : Attribute} {names : List AttrName} {more : List Attribute}
    (h : follow full a names = .ok more) : descend? a names = some more := by
  induction names generalizing a more with
  | nil => exact congrArg some (Except.ok.inj h)
  | cons name rest ih =>
    rw [follow, Except.bind_eq_ok_iff] at h
    obtain ⟨sub, hsub, h⟩ := h
    rw [Except.bind_eq_ok_iff] at h
    obtain ⟨below, hbelow, hmore⟩ := h
    obtain rfl := Except.ok.inj hmore
    rw [descend?, sub?_of_subOf hsub, Option.bind_eq_bind, Option.bind_some, ih hbelow]
    rfl

/-- What is known of a located path: it passes the attributes that its names lead to, and its place is the
object that holds the first of them. -/
structure Locates (rt : ResourceType) (scope : Option Scope) (path : AttrPath) (l : Located) : Prop where
  passed : passed? rt (ownerOf scope) path = some (l.first, l.more)
  place : ∀ record,
    l.place.valueIn record = holderOf rt (ownerOf scope) l.first (scopeIn scope record)
  last : l.resolved.attr = lastOf l.first l.more

-- The check of the schema passes, and leaves the search for the attribute.
theorem found_of_resolve {rt : ResourceType} {path : AttrPath} {r : Resolved} (h : resolve rt path = .ok r) :
    ∃ top below, rt.attribute? path.attr.text (path.schema.map (·.text)) = some top ∧
      follow path top path.subs = .ok below ∧ r = ⟨path, top, below⟩ := by
  unfold resolve at h
  cases htop : rt.attribute? path.attr.text (path.schema.map (·.text)) with
  | none =>
    simp only [htop] at h
    split at h
    · split at h <;> exact nomatch h
    · exact nomatch h
  | some top =>
    simp only [htop] at h
    have hsteps : (follow path top path.subs).map (⟨path, top, ·⟩) = .ok r := by
      split at h
      · split at h
        · exact nomatch h
        · exact h
      · exact h
    obtain ⟨below, hbelow, rfl⟩ := Except.map_eq_ok_iff.mp hsteps
    exact ⟨top, below, rfl, hbelow, rfl⟩

-- The attributes that a resolved path passes.
theorem passed?_of_resolve {rt : ResourceType} {path : AttrPath} {r : Resolved}
    (h : resolve rt path = .ok r) : passed? rt none path = some (r.top, r.below) := by
  obtain ⟨top, below, htop, hbelow, rfl⟩ := found_of_resolve h
  unfold passed?
  simp only [htop, Option.bind_eq_bind, Option.bind_some, descend?_of_follow hbelow]

theorem locates_top {rt : ResourceType} {path : AttrPath} {l : Located}
    (h : locate rt none path = .ok l) : Locates rt none path l := by
  rw [locate, Except.bind_eq_ok_iff] at h
  obtain ⟨r, hr, hl⟩ := h
  obtain rfl := Except.ok.inj hl
  rw [Except.mapError_eq_ok_iff] at hr
  refine ⟨passed?_of_resolve hr, fun record => ?_, rfl⟩
  unfold Place.valueIn holderOf
  cases rt.extensionOf? r.top <;> rfl

theorem locates_inside {rt : ResourceType} {s : Scope} {path : AttrPath} {l : Located}
    (h : locate rt (some s) path = .ok l) : Locates rt (some s) path l := by
  rw [locate, Except.bind_eq_ok_iff] at h
  obtain ⟨⟨full, first, more⟩, hfollow, hl⟩ := h
  obtain rfl := Except.ok.inj hl
  rw [Except.mapError_eq_ok_iff] at hfollow
  -- no schema is allowed inside, and none is left
  have hsteps : (do
      let first ← subOf (s.resolved.path.child path.segments) s.resolved.attr path.attr
      return (s.resolved.path.child path.segments, first,
        ← follow (s.resolved.path.child path.segments) first path.subs)) = Except.ok (full, first, more) := by
    unfold followInside at hfollow
    by_cases hschema : path.schema.isSome = true
    · simp only [hschema] at hfollow
      exact nomatch hfollow
    · simp only [hschema] at hfollow
      exact hfollow
  simp only [Except.bind_eq_ok_iff] at hsteps
  obtain ⟨sub, hsub, below, hbelow, hresult⟩ := hsteps
  obtain ⟨rfl, hpair⟩ := Prod.mk.inj (Except.ok.inj hresult)
  obtain ⟨rfl, rfl⟩ := Prod.mk.inj hpair
  refine ⟨?_, fun record => ?_, ?_⟩
  · show (do
      let first ← s.resolved.attr.sub? path.attr.text
      let more ← descend? first path.subs
      some (first, more)) = some (sub, below)
    simp only [sub?_of_subOf hsub, Option.bind_eq_bind, Option.bind_some, descend?_of_follow hbelow]
  · rfl
  · rw [Resolved.attr, Resolved.extend, lastOf, List.getLast?_append, List.getLast?_cons]
    simp

theorem locates {rt : ResourceType} {scope : Option Scope} {path : AttrPath} {l : Located}
    (h : locate rt scope path = .ok l) : Locates rt scope path l := by
  cases scope with
  | none => exact locates_top h
  | some s => exact locates_inside h

-- Lowering along a path evaluates along it, if what is built at its end evaluates there.
theorem holdsOf_alongPath {build : Place → Attribute → Except LoweringError Predicate}
    {test : Attribute → Value → Except MatchFault Bool} {p : Place} {first : Attribute}
    {more : List Attribute} {q : Predicate}
    (hbuild : ∀ p q, build p (lastOf first more) = .ok q →
      ∀ record, q.holdsOf record = test (lastOf first more) (p.valueIn record))
    (h : alongPath build p first more = .ok q) (record : Value) :
    q.holdsOf record = along test first more (p.valueIn record) := by
  induction more generalizing p first q record with
  | nil => exact hbuild p q h record
  | cons next rest ih =>
    have hlast : lastOf first (next :: rest) = lastOf next rest := by
      rw [lastOf, lastOf, List.getLast?_cons]
      rfl
    rw [hlast] at hbuild
    rw [alongPath] at h
    rw [along]
    by_cases hlist : (first.isComplex && first.multiValued) = true
    · rw [if_pos hlist, Except.map_eq_ok_iff] at h
      obtain ⟨inner, hinner, rfl⟩ := h
      rw [if_pos hlist, Predicate.holdsOf, p.values_ref]
      congr 1
      funext element
      exact ih hbuild hinner element
    · rw [if_neg hlist] at h ⊢
      rw [← p.valueIn_enter]
      exact ih hbuild h record

/-! Conditions and value paths. -/

theorem holdsOf_compare (p : Place) (a : Attribute) (operator : Operator) (literal record : Value) :
    (Predicate.compare (p.ref a) operator literal).holdsOf record =
      comparesAt operator literal a (p.valueIn record) := by
  rw [Predicate.holdsOf]
  unfold matchCompare
  rw [p.values_ref]
  cases literal <;> rfl

-- A comparison passes what its path does, and the sub-attribute `value` behind a complex attribute.
theorem comparison?_of_toComparable {rt : ResourceType} {scope : Option Scope} {path : AttrPath}
    {operator : Operator} {l l' : Located} {literal v : Value} (hl : Locates rt scope path l)
    (h : toComparable operator l = .ok l') (hv : l'.resolved.attr.literal literal = .ok v) :
    comparison? rt (ownerOf scope) path literal = some (l'.first, l'.more, v) ∧
      l'.first = l.first ∧ l'.place = l.place ∧ l'.resolved.attr = lastOf l'.first l'.more := by
  unfold toComparable at h
  rw [hl.last] at h
  by_cases hcomplex : (lastOf l.first l.more).isComplex = true
  · rw [if_pos hcomplex] at h
    cases hsub : (lastOf l.first l.more).sub? "value" with
    | none =>
      rw [hsub] at h
      exact nomatch h
    | some sub =>
      rw [hsub] at h
      obtain rfl := Except.ok.inj h
      have hlast : (l.resolved.extend (l.resolved.path.child [sub.name]) [sub]).attr =
          lastOf l.first (l.more ++ [sub]) := by
        simp [Resolved.attr, Resolved.extend, lastOf]
      refine ⟨?_, rfl, rfl, hlast⟩
      simp only [comparison?, hl.passed, Option.bind_eq_bind, Option.bind_some, if_pos hcomplex, hsub,
        Option.map_some, ← hlast, hv]
  · rw [if_neg hcomplex] at h
    obtain rfl := Except.ok.inj h
    refine ⟨?_, rfl, rfl, hl.last⟩
    rw [hl.last] at hv
    simp only [comparison?, hl.passed, Option.bind_eq_bind, Option.bind_some, if_neg hcomplex, hv]

theorem holdsOf_lowerComparison {rt : ResourceType} {scope : Option Scope} {path : AttrPath}
    {operator : Operator} {literal : Value} {q : Predicate}
    (h : lowerComparison rt scope path operator literal = .ok q) (record : Value) :
    q.holdsOf record =
      evaluate rt (ownerOf scope) (scopeIn scope record) (.comparison path operator literal) := by
  simp only [lowerComparison, Except.bind_eq_ok_iff] at h
  obtain ⟨l, hl, l', hl', -, -, h⟩ := h
  cases hv : l'.resolved.attr.literal literal with
  | error e =>
    rw [hv] at h
    exact nomatch h
  | ok v =>
    rw [hv] at h
    obtain ⟨hcomparison, hfirst, hplace, -⟩ := comparison?_of_toComparable (locates hl) hl' hv
    rw [evaluate, hcomparison]
    simp only
    rw [hfirst, ← (locates hl).place, ← hplace, ← hfirst]
    apply holdsOf_alongPath _ h
    intro p q hq record
    obtain rfl := Except.ok.inj hq
    exact holdsOf_compare p _ operator v record

theorem holdsOf_lowerPresence {rt : ResourceType} {scope : Option Scope} {path : AttrPath} {q : Predicate}
    (h : lowerPresence rt scope path = .ok q) (record : Value) :
    q.holdsOf record = evaluate rt (ownerOf scope) (scopeIn scope record) (.presence path) := by
  simp only [lowerPresence, Except.bind_eq_ok_iff] at h
  obtain ⟨l, hl, h⟩ := h
  rw [evaluate, (locates hl).passed]
  simp only
  rw [← (locates hl).place]
  apply holdsOf_alongPath _ h
  intro p q hq record
  obtain rfl := Except.ok.inj hq
  rw [Predicate.holdsOf, p.values_ref]

theorem holdsOf_lowerValuePath {rt : ResourceType} {scope : Option Scope} {path : AttrPath} {inner : Filter}
    {lowerInner : Scope → Except LoweringError Predicate} {q : Predicate}
    (hinner : ∀ s q, lowerInner s = .ok q → ∀ record,
      q.holdsOf record = evaluate rt (some s.resolved.attr) (s.place.valueIn record) inner)
    (h : lowerValuePath rt scope path lowerInner = .ok q) (record : Value) :
    q.holdsOf record = evaluate rt (ownerOf scope) (scopeIn scope record) (.valuePath path inner) := by
  rw [lowerValuePath, Except.bind_eq_ok_iff] at h
  obtain ⟨l, hl, h⟩ := h
  by_cases hcomplex : l.resolved.attr.isComplex = true
  · simp only [hcomplex] at h
    rw [evaluate, (locates hl).passed]
    simp only
    rw [← (locates hl).place]
    refine holdsOf_alongPath ?_ h record
    intro p q hq record
    rw [← (locates hl).last] at hq ⊢
    by_cases hlist : l.resolved.attr.multiValued = true
    · rw [if_pos hlist, Except.map_eq_ok_iff] at hq
      obtain ⟨body, hbody, rfl⟩ := hq
      rw [if_pos hlist, Predicate.holdsOf, p.values_ref]
      congr 1
      funext element
      exact hinner ⟨l.resolved, .element⟩ body hbody element
    · rw [if_neg hlist] at hq ⊢
      rw [hinner ⟨l.resolved, p.enter l.resolved.attr⟩ q hq record, ← p.valueIn_enter]
  · simp only [hcomplex] at h
    exact nomatch h

/-- The connective of a chain and its counterpart in predicates. -/
def connected (connective : Connective) (ps : List Predicate) (record : Value) : Except MatchFault Bool :=
  match connective with
  | .and => Predicate.allHold ps record
  | .or => Predicate.anyHolds ps record

theorem connected_cons (connective : Connective) (p : Predicate) (ps : List Predicate) (record : Value) :
    connected connective (p :: ps) record =
      connect connective (p.holdsOf record) (connected connective ps record) := by
  cases connective with
  | and =>
    rw [connected, Predicate.allHold, connect]
    cases p.holdsOf record with
    | error e => rfl
    | ok b => cases b <;> rfl
  | or =>
    rw [connected, Predicate.anyHolds, connect]
    cases p.holdsOf record with
    | error e => rfl
    | ok b => cases b <;> rfl

mutual

/-- The predicate of a filter in a scope holds exactly as the filter evaluates there. -/
theorem holdsOf_lowerIn (rt : ResourceType) : ∀ {f : Filter} {scope : Option Scope} {q : Predicate},
    lowerIn rt scope f = .ok q →
    ∀ record, q.holdsOf record = evaluate rt (ownerOf scope) (scopeIn scope record) f
  | .comparison path operator literal, scope, q, h, record => by
    rw [lowerIn] at h
    exact holdsOf_lowerComparison h record
  | .presence path, scope, q, h, record => by
    rw [lowerIn] at h
    exact holdsOf_lowerPresence h record
  | .valuePath path inner, scope, q, h, record => by
    rw [lowerIn] at h
    exact holdsOf_lowerValuePath (fun s q hq => holdsOf_lowerIn rt hq) h record
  | .negation inner, scope, q, h, record => by
    rw [lowerIn, Except.bind_eq_ok_iff] at h
    obtain ⟨p, hp, hq⟩ := h
    obtain rfl := Except.ok.inj hq
    rw [Predicate.holdsOf, evaluate, holdsOf_lowerIn rt hp]
  | .chain connective first second more, scope, q, h, record => by
    simp only [lowerIn, Except.bind_eq_ok_iff] at h
    obtain ⟨p, hp, p', hp', ps, hps, hq⟩ := h
    obtain rfl := Except.ok.inj hq
    rw [evaluate, ← holdsOf_lowerIn rt hp, ← holdsOf_lowerIn rt hp', ← connected_lowerAll rt connective hps,
      ← connected_cons, ← connected_cons]
    cases connective <;> rw [Predicate.holdsOf] <;> rfl

theorem connected_lowerAll (rt : ResourceType) (connective : Connective) : ∀ {fs : List Filter}
    {scope : Option Scope} {ps : List Predicate}, lowerAll rt scope fs = .ok ps → ∀ record,
    connected connective ps record =
      evaluateMembers rt connective (ownerOf scope) (scopeIn scope record) fs
  | [], scope, ps, h, record => by
    obtain rfl := Except.ok.inj h
    cases connective <;> rfl
  | f :: rest, scope, ps, h, record => by
    simp only [lowerAll, Except.bind_eq_ok_iff] at h
    obtain ⟨p, hp, ps', hps, hq⟩ := h
    obtain rfl := Except.ok.inj hq
    rw [connected_cons, evaluateMembers, holdsOf_lowerIn rt hp, connected_lowerAll rt connective hps]

end

/-- A record satisfies the predicate of a filter exactly if the filter evaluates to true on it: the two
have the same outcome, faults included, and an outcome tells whether the record satisfies the filter. -/
theorem holdsOf_lower (rt : ResourceType) (f : Filter) (p : Predicate) (h : lower rt f = .ok p)
    (record : Value) :
    p.holdsOf record = evaluate rt none record f ∧
      ∀ b, p.holdsOf record = .ok b → (b = true ↔ Satisfies rt none record f) := by
  have heq : p.holdsOf record = evaluate rt none record f := holdsOf_lowerIn rt h record
  refine ⟨heq, fun b hb => ?_⟩
  rw [heq] at hb
  exact evaluate_eq_ok rt hb

/-- Teams with members in lists, and cost centers in an extension. -/
def teamType : ResourceType where
  name := "Unit"
  endpoint := "/Units"
  schema := ⟨"urn:unit", .refl true⟩
  description := ""
  extensions := [⟨⟨"urn:billing", .refl true⟩, false⟩]
  attributes :=
    [ { name := ⟨"teams", .refl true⟩, type := .complex, multiValued := true,
        schema := some ⟨"urn:unit", .refl true⟩
        subAttributes :=
          [ { name := ⟨"name", .refl true⟩, type := .string },
            { name := ⟨"members", .refl true⟩, type := .complex, multiValued := true,
              subAttributes :=
                [ { name := ⟨"value", .refl true⟩, type := .string },
                  { name := ⟨"active", .refl true⟩, type := .boolean } ] } ] },
      { name := ⟨"centers", .refl true⟩, type := .complex, multiValued := true,
        schema := some ⟨"urn:billing", .refl true⟩
        subAttributes := [{ name := ⟨"value", .refl true⟩, type := .integer }] } ]

/-- `teams[members[value eq "ann" and active eq true] and not (name sw "x")] and urn:billing:centers gt 7` -/
def teamFilter : Filter :=
  .chain .and
    (.valuePath ⟨none, ⟨"teams", .refl true⟩, []⟩
      (.chain .and
        (.valuePath ⟨none, ⟨"members", .refl true⟩, []⟩
          (.chain .and (.comparison ⟨none, ⟨"value", .refl true⟩, []⟩ .eq (.string "ann"))
            (.comparison ⟨none, ⟨"active", .refl true⟩, []⟩ .eq (.bool true)) []))
        (.negation (.comparison ⟨none, ⟨"name", .refl true⟩, []⟩ .sw (.string "x"))) []))
    (.comparison ⟨some ⟨"urn:billing", .refl true⟩, ⟨"centers", .refl true⟩, []⟩ .gt (.integer 7)) []

def teamRecord : Value :=
  .object
    [ ("teams", .list
        [ .object [("name", .string "X1"), ("members", .list [.object [("value", .string "ann")]])],
          .object [("name", .string "Y2"), ("members", .list
            [.object [("value", .string "bob")], .object [("value", .string "ANN"), ("active", .bool true)]])] ]),
      ("urn:billing", .object [("centers", .list [.object [("value", .integer 9)]])]) ]

theorem holdsOf_lower_teams :
    ∃ p, lower teamType teamFilter = .ok p ∧ p.holdsOf teamRecord = .ok true ∧
      Satisfies teamType none teamRecord teamFilter := by
  have hlower : (lower teamType teamFilter).isOk = true := by decide
  have hvalue : (evaluate teamType none teamRecord teamFilter).toOption = some true := by decide +kernel
  cases h : lower teamType teamFilter with
  | error e =>
    rw [h] at hlower
    exact nomatch hlower
  | ok p =>
    obtain ⟨hevaluate, hsatisfies⟩ := holdsOf_lower teamType teamFilter p h teamRecord
    rw [← hevaluate] at hvalue
    cases hholds : p.holdsOf teamRecord with
    | error e =>
      rw [hholds] at hvalue
      exact nomatch hvalue
    | ok b =>
      rw [hholds] at hvalue
      obtain rfl := Option.some.inj hvalue
      exact ⟨p, rfl, hholds, (hsatisfies true hholds).mp rfl⟩

end Filter

end Scim
