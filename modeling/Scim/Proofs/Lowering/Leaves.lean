import Scim.Proofs.Attribute.Reflexivity
import Scim.Proofs.Lowering.Chains
import Scim.Proofs.Lowering.Outline

/-!
Lowering keeps the conditions of a filter, in their order and under the same logical operators, each about the chain of
attributes that its path resolves to.
-/

namespace Scim

/-! Literals. -/

namespace Attribute

/-- A value is a literal for the attribute: of its type, and not for a complex one. -/
def IsLiteral (a : Attribute) (v : Value) : Prop :=
  match a.type with
  | .string => ∃ s, v = .string s
  | .reference => ∃ s, v = .string s
  | .binary => ∃ s, v = .string s ∧ Text.isAscii s.toList = true ∧ Text.isBase64 s.toList = true
  | .boolean => ∃ b, v = .bool b
  | .integer => ∃ i, v = .integer i
  | .decimal => ∃ d, v = .decimal d ∧ d.isFinite = true
  | .dateTime => ∃ t, v = .dateTime t ∧ t.offset.isSome = true
  | .complex => False

/-- What a condition tests of the attribute, as it is given and as it is asked: nothing, or by the same operator a null
literal or one of the attribute's type. -/
inductive Tests (a : Attribute) : Option (Operator × Value) → Option (Operator × Value) → Prop
  | presence : Tests a none none
  | null {operator : Operator} (equality : operator = .eq ∨ operator = .ne) :
    Tests a (some (operator, .null)) (some (operator, .null))
  | literal {operator : Operator} {given v : Value} (assigned : given.isNull = false)
    (supported : operator.supports a.type = true) (coerced : a.literal given = .ok v) (typed : a.IsLiteral v) :
    Tests a (some (operator, given)) (some (operator, v))

variable {a : Attribute} {given v : Value}

theorem isFinite_of_toDecimal {d : Binary64} (h : toDecimal given = .ok (.decimal d)) : d.isFinite = true := by
  unfold toDecimal at h
  dsimp only at h
  have hfinite : ∀ e : Binary64, (if e.isFinite = true then Except.ok (Value.decimal e)
      else Except.error (LiteralFault.outOfRange given)) = .ok (.decimal d) → d.isFinite = true := by
    intro e he
    split at he
    · rename_i hfinite
      obtain rfl := Value.decimal.inj (Except.ok.inj he)
      exact hfinite
    · cases he
  split at h
  · rename_i i
    cases hnearest : Binary64.ofInt? i with
    | none =>
      rw [hnearest] at h
      cases h
    | some e =>
      rw [hnearest] at h
      obtain rfl := Value.decimal.inj (Except.ok.inj h)
      exact Binary64.isFinite_of_ofInt? hnearest
  · exact hfinite _ h
  · split at h
    · exact hfinite _ h
    · cases h
  · cases h

theorem isBase64_of_accepts {s : String} (htype : a.type = .binary) (h : a.accepts (.string s) = .ok true) :
    Text.isAscii s.toList = true ∧ Text.isBase64 s.toList = true := by
  unfold accepts at h
  rw [htype] at h
  dsimp only at h
  split at h
  · rename_i hascii
    exact ⟨hascii, Except.ok.inj h⟩
  · cases h

theorem offset_of_toDateTime {t : DateTime} (h : given.toDateTime = .ok t) : t.offset.isSome = true := by
  unfold Value.toDateTime at h
  split at h
  · obtain rfl := Except.ok.inj h
    rfl
  · split at h
    · split at h
      · obtain rfl := Except.ok.inj h
        rfl
      · cases h
    · cases h
  · cases h

theorem isLiteral_of_literal (h : a.literal given = .ok v) (hgiven : given.isNull = false) : a.IsLiteral v := by
  have hnull : v.isNull = false := by
    rcases literal_cases h with ⟨rfl, -⟩ | ⟨-, hnull, -⟩
    · cases hgiven
    · exact hnull
  have haccepts := accepts_of_literal h hnull
  unfold literal at h
  split at h
  · cases hgiven
  · revert h
    unfold IsLiteral
    cases htype : a.type with
    | string => exact exists_of_toText
    | reference => exact exists_of_toText
    | binary =>
      intro h
      obtain ⟨s, rfl, -⟩ := exists_of_toBinary h
      exact ⟨s, rfl, isBase64_of_accepts htype haccepts⟩
    | boolean => exact exists_of_toBoolean
    | integer => exact exists_of_toInteger
    | decimal =>
      intro h
      obtain ⟨d, rfl⟩ := exists_of_toDecimal h
      exact ⟨d, rfl, isFinite_of_toDecimal h⟩
    | dateTime =>
      intro h
      obtain ⟨t, ht, rfl⟩ := Except.map_eq_ok_iff.mp (Except.mapError_eq_ok_iff.mp h)
      exact ⟨t, rfl, offset_of_toDateTime ht⟩
    | complex => exact nofun

theorem tests_of_checkOperator {r : Resolved} {operator : Operator} (hcheck : checkOperator r operator given = .ok ())
    (h : r.attr.literal given = .ok v) : r.attr.Tests (some (operator, given)) (some (operator, v)) := by
  have hfits := Filter.fits_of_checkOperator hcheck h
  unfold Operator.fits at hfits
  rcases literal_cases h with ⟨rfl, rfl⟩ | ⟨hgiven, hnull, -⟩
  · exact .null hfits
  · rw [hnull] at hfits
    exact .literal hgiven hfits h (isLiteral_of_literal h hgiven)

end Attribute

/-! Conditions. -/

namespace Filter.Leaf

/-- The chain of attributes that a condition is about: what its path resolves to, and behind a complex attribute that is
compared the sub-attribute `value`. -/
inductive Spans (rt : ResourceType) (l : Leaf) : List Attribute → Prop
  | path {r : Resolved} (resolved : resolve rt l.path = .ok r) (simple : l.test = none ∨ r.attr.isComplex = false) :
    Spans rt l r.chain
  | value {r : Resolved} {sub : Attribute} (resolved : resolve rt l.path = .ok r) (compared : l.test ≠ none)
    (complex : r.attr.isComplex = true) (found : r.attr.sub? "value" = some sub) : Spans rt l (r.chain ++ [sub])

/-- A condition of a predicate asks what a condition of a filter says of a chain of attributes. -/
structure AskedAs (rt : ResourceType) (l : Leaf) (m : Predicate.Leaf) (chain : List Attribute) : Prop where
  spans : l.Spans rt chain
  steps : (m.elements ++ [m.ref]).flatMap (·.steps) = chain.map (·.name.text)
  cuts : Cuts (chain.head?.bind rt.extensionOf?) chain m.elements m.ref
  tests : m.ref.attr.Tests l.test m.test

end Filter.Leaf

namespace Filter

variable {rt : ResourceType} {scope : Option Scope} {base : Option AttrPath} {elements : List PropertyRef}
  {path : AttrPath}

/-- A condition of a filter is asked by a condition of a predicate. -/
def Asked (rt : ResourceType) (l : Leaf) (m : Predicate.Leaf) : Prop :=
  ∃ chain, l.AskedAs rt m chain

/-- Paths in a scope are read behind a path that leads to it, and their references are made in
elements of some lists. -/
inductive Stands (rt : ResourceType) : Option Scope → Option AttrPath → List PropertyRef → Prop
  | top : Stands rt none none []
  | inside {s : Scope} {elements : List PropertyRef} (resolved : resolve rt s.resolved.path = .ok s.resolved)
    (reached : s.place.Reached (rt.extensionOf? s.resolved.top) s.resolved.chain elements) :
    Stands rt (some s) (some s.resolved.path) elements

/-- What is known of a located path: what it resolves to behind the path of its scope, and how its place is reached. -/
structure Situated (rt : ResourceType) (base : Option AttrPath) (elements : List PropertyRef) (path : AttrPath)
    (l : Located) : Prop where
  resolved : resolve rt (path.behind base) = .ok l.resolved
  last : l.resolved.attr = lastOf l.first l.more
  descends : ∃ names, l.first.Descends names l.more
  reached : ∃ before, before ++ l.first :: l.more = l.resolved.chain ∧
    l.place.Reached (rt.extensionOf? l.resolved.top) before elements

theorem situated_of_locate {l : Located} (hstands : Stands rt scope base elements) (h : locate rt scope path = .ok l) :
    Situated rt base elements path l := by
  have hlast := (locates h).last
  cases hstands with
  | top =>
    obtain ⟨r, hr, hl⟩ := Except.bind_eq_ok_iff.mp h
    obtain rfl := Except.ok.inj hl
    have hresolve := Except.mapError_eq_ok_iff.mp hr
    obtain ⟨-, top, below, -, hbelow, rfl⟩ := resolve_eq_ok_iff.mp hresolve
    exact ⟨hresolve, hlast, ⟨path.subs, hbelow⟩, [], rfl, Place.reached_top _⟩
  | inside resolved reached =>
    rename_i s
    obtain ⟨⟨full, first, more⟩, hfollow, hl⟩ := Except.bind_eq_ok_iff.mp h
    obtain rfl := Except.ok.inj hl
    obtain ⟨rfl, hdescends⟩ := descends_of_followInside (Except.mapError_eq_ok_iff.mp hfollow)
    refine ⟨resolve_child resolved hdescends, hlast, ?_, s.resolved.chain, rfl, reached⟩
    cases hdescends with
    | step _ _ rest => exact ⟨path.subs, rest⟩

-- What is built at the end of a path is built where the rest of the chain is reached.
theorem matches_alongPath {build : Place → Attribute → Except LoweringError Predicate} {o : Outline Leaf}
    {extension : Option String} {before : List Attribute} {p : Place} {first : Attribute} {names : List AttrName}
    {more : List Attribute} {q : Predicate} (hdescends : first.Descends names more)
    (hreached : p.Reached extension before elements)
    (hbuild : ∀ before' elements p q, before' ++ [lastOf first more] = before ++ first :: more →
      p.Reached extension before' elements → build p (lastOf first more) = .ok q →
      Outline.Matches (Asked rt) o (q.outline elements))
    (h : alongPath build p first more = .ok q) : Outline.Matches (Asked rt) o (q.outline elements) := by
  induction more generalizing p first names before elements q with
  | nil => exact hbuild before elements p q rfl hreached h
  | cons next rest ih =>
    cases hdescends with
    | step complex _ inside =>
      have hsplit : before ++ first :: next :: rest = (before ++ [first]) ++ next :: rest := by
        rw [List.append_assoc]
        rfl
      rw [lastOf_cons, hsplit] at hbuild
      rw [alongPath, complex, Bool.true_and] at h
      split at h
      · rename_i hlist
        obtain ⟨inner, hinner, rfl⟩ := Except.map_eq_ok_iff.mp h
        have hinside : Outline.Matches (Asked rt) o (inner.outline (elements ++ [p.ref first])) :=
          ih inside (hreached.element complex hlist) hbuild hinner
        exact hinside
      · rename_i hsingle
        exact ih inside (hreached.enter complex (Bool.eq_false_iff.mpr hsingle)) hbuild h

theorem asked_of_reached {l : Leaf} {test : Option (Operator × Value)} {chain before : List Attribute} {p : Place}
    {a top : Attribute} (hspans : l.Spans rt chain) (htop : chain.head? = some top) (hchain : before ++ [a] = chain)
    (hreached : p.Reached (rt.extensionOf? top) before elements) (htests : a.Tests l.test test) :
    Asked rt l ⟨elements, p.ref a, test⟩ := by
  have hcuts : Cuts (chain.head?.bind rt.extensionOf?) chain elements (p.ref a) := by
    rw [htop, Option.bind_some, ← hchain]
    exact hreached.ref a
  exact ⟨chain, hspans, hcuts.steps, hcuts, htests⟩

theorem matches_lowerComparison {operator : Operator} {literal : Value} {q : Predicate}
    (hstands : Stands rt scope base elements) (h : lowerComparison rt scope path operator literal = .ok q) :
    Outline.Matches (Asked rt) (.leaf ⟨path.behind base, some (operator, literal)⟩) (q.outline elements) := by
  simp only [lowerComparison, Except.bind_eq_ok_iff] at h
  obtain ⟨l, hl, l', hl', u, hcheck, h⟩ := h
  cases hv : l'.resolved.attr.literal literal with
  | error e =>
    rw [hv] at h
    exact nomatch h
  | ok v =>
    rw [hv] at h
    have hsituated := situated_of_locate hstands hl
    obtain ⟨names, hdescends⟩ := hsituated.descends
    obtain ⟨before, hchain, hreached⟩ := hsituated.reached
    have htests := Attribute.tests_of_checkOperator hcheck hv
    unfold toComparable at hl'
    split at hl'
    · rename_i hcomplex
      split at hl'
      · cases hl'
      · rename_i sub hsub
        obtain rfl := Except.ok.inj hl'
        have hmore : l.first.Descends (names ++ [⟨"value", .refl true⟩]) (l.more ++ [sub]) := by
          refine hdescends.append (.step ?_ ?_ (.done sub)) <;> rw [← hsituated.last]
          · exact hcomplex
          · exact hsub
        refine matches_alongPath hmore hreached ?_ h
        intro before' elements p q hsplit hp hq
        obtain rfl := Except.ok.inj hq
        have hlast : lastOf l.first (l.more ++ [sub]) = sub := by simp [lastOf]
        rw [hlast] at hsplit ⊢
        refine .leaf (asked_of_reached (.value hsituated.resolved (Option.some_ne_none _) hcomplex hsub) rfl ?_ hp ?_)
        · rw [hsplit, ← hchain]
          simp
        · have hattr : (l.resolved.extend (l.resolved.path.child [sub.name]) [sub]).attr = sub := by
            simp [Resolved.attr, Resolved.extend]
          rw [hattr] at htests
          exact htests
    · rename_i hsimple
      obtain rfl := Except.ok.inj hl'
      refine matches_alongPath hdescends hreached ?_ h
      intro before' elements p q hsplit hp hq
      obtain rfl := Except.ok.inj hq
      rw [← hsituated.last] at hsplit ⊢
      refine .leaf (asked_of_reached (.path hsituated.resolved (.inr (Bool.eq_false_iff.mpr hsimple))) rfl ?_ hp htests)
      exact hsplit.trans hchain

theorem matches_lowerPresence {q : Predicate} (hstands : Stands rt scope base elements)
    (h : lowerPresence rt scope path = .ok q) :
    Outline.Matches (Asked rt) (.leaf ⟨path.behind base, none⟩) (q.outline elements) := by
  obtain ⟨l, hl, h⟩ := Except.bind_eq_ok_iff.mp h
  have hsituated := situated_of_locate hstands hl
  obtain ⟨names, hdescends⟩ := hsituated.descends
  obtain ⟨before, hchain, hreached⟩ := hsituated.reached
  refine matches_alongPath hdescends hreached ?_ h
  intro before' elements p q hsplit hp hq
  obtain rfl := Except.ok.inj hq
  exact .leaf (asked_of_reached (.path hsituated.resolved (.inl rfl)) rfl (hsplit.trans hchain) hp .presence)

theorem matches_lowerValuePath {inner : Scope → Except LoweringError Predicate} {o : Outline Leaf} {q : Predicate}
    (hstands : Stands rt scope base elements)
    (hinner : ∀ s elements q, Stands rt (some s) (some (path.behind base)) elements → inner s = .ok q →
      Outline.Matches (Asked rt) o (q.outline elements))
    (h : lowerValuePath rt scope path inner = .ok q) : Outline.Matches (Asked rt) o (q.outline elements) := by
  rw [lowerValuePath, Except.bind_eq_ok_iff] at h
  obtain ⟨l, hl, h⟩ := h
  have hsituated := situated_of_locate hstands hl
  obtain ⟨names, hdescends⟩ := hsituated.descends
  obtain ⟨before, hchain, hreached⟩ := hsituated.reached
  have hpath := path_of_resolve hsituated.resolved
  have hresolved : resolve rt l.resolved.path = .ok l.resolved := by
    rw [hpath]
    exact hsituated.resolved
  rw [← hpath] at hinner
  cases hcomplex : l.resolved.attr.isComplex with
  | false =>
    simp only [hcomplex] at h
    cases h
  | true =>
    simp only [hcomplex] at h
    refine matches_alongPath hdescends hreached ?_ h
    intro before' elements p q hsplit hp hq
    rw [hchain] at hsplit
    rw [hsituated.last] at hcomplex
    split at hq
    · rename_i hlist
      obtain ⟨body, hbody, rfl⟩ := Except.map_eq_ok_iff.mp hq
      have hplace := hp.element hcomplex hlist
      rw [hsplit] at hplace
      exact hinner _ _ body (.inside hresolved hplace) hbody
    · rename_i hsingle
      have hplace := hp.enter hcomplex (Bool.eq_false_iff.mpr hsingle)
      rw [hsplit] at hplace
      exact hinner _ _ q (.inside hresolved hplace) hq

mutual

theorem matches_lowerIn (rt : ResourceType) : ∀ {f : Filter} {scope : Option Scope} {base : Option AttrPath}
    {elements : List PropertyRef} {q : Predicate}, Stands rt scope base elements → lowerIn rt scope f = .ok q →
    Outline.Matches (Asked rt) (f.outline base) (q.outline elements)
  | .comparison _ _ _, _, _, _, _, hstands, h => by
    rw [lowerIn] at h
    exact matches_lowerComparison hstands h
  | .presence _, _, _, _, _, hstands, h => by
    rw [lowerIn] at h
    exact matches_lowerPresence hstands h
  | .valuePath _ inner, _, _, _, _, hstands, h => by
    rw [lowerIn] at h
    rw [outline]
    exact matches_lowerValuePath hstands (fun _ _ _ hs hq => matches_lowerIn rt hs hq) h
  | .negation inner, _, _, _, _, hstands, h => by
    obtain ⟨p, hp, hq⟩ := Except.bind_eq_ok_iff.mp h
    obtain rfl := Except.ok.inj hq
    exact .node (.cons (matches_lowerIn rt hstands hp) .nil)
  | .chain connective first second more, _, _, _, _, hstands, h => by
    simp only [lowerIn, Except.bind_eq_ok_iff] at h
    obtain ⟨p, hp, p', hp', ps, hps, hq⟩ := h
    obtain rfl := Except.ok.inj hq
    have hmore := allMatch_lowerAll rt hstands hps
    cases connective <;>
      exact .node (.cons (matches_lowerIn rt hstands hp) (.cons (matches_lowerIn rt hstands hp') hmore))

theorem allMatch_lowerAll (rt : ResourceType) : ∀ {fs : List Filter} {scope : Option Scope} {base : Option AttrPath}
    {elements : List PropertyRef} {ps : List Predicate}, Stands rt scope base elements → lowerAll rt scope fs = .ok ps →
    Outline.AllMatch (Asked rt) (outlines base fs) (Predicate.outlines elements ps)
  | [], _, _, _, _, _, h => by
    obtain rfl := Except.ok.inj h
    exact .nil
  | f :: rest, _, _, _, _, hstands, h => by
    simp only [lowerAll, Except.bind_eq_ok_iff] at h
    obtain ⟨p, hp, ps', hps, hq⟩ := h
    obtain rfl := Except.ok.inj hq
    exact .cons (matches_lowerIn rt hstands hp) (allMatch_lowerAll rt hstands hps)

end

theorem exists_of_forall₂ {α β : Type} {R : α → β → Prop} {xs : List α} {ys : List β} (h : List.Forall₂ R xs ys) :
    ∀ x ∈ xs, ∃ y, R x y := by
  induction h with
  | nil => exact fun x hx => absurd hx List.not_mem_nil
  | cons first _ ih => exact List.forall_mem_cons.mpr ⟨⟨_, first⟩, ih⟩

/-- The predicate of a filter has the outline of the filter, and each of its conditions asks what the filter says there;
all paths of the filter resolve. -/
theorem outline_lower {f : Filter} {p : Predicate} (h : lower rt f = .ok p) :
    Outline.Matches (Asked rt) (f.outline none) (p.outline []) ∧ ∀ path ∈ f.paths, ∃ r, resolve rt path = .ok r := by
  have hmatches := matches_lowerIn rt .top h
  refine ⟨hmatches, fun path hpath => ?_⟩
  obtain ⟨l, hl, rfl⟩ := exists_leaf_of_mem_paths hpath
  obtain ⟨m, chain, hasked⟩ := exists_of_forall₂ hmatches.leaves l hl
  cases hasked.spans with
  | path resolved _ => exact ⟨_, resolved⟩
  | value resolved _ _ _ => exact ⟨_, resolved⟩

/-! Racks of devices with ports. -/

def portNumber : Attribute where
  name := ⟨"number", .refl true⟩
  type := .integer

def ports : Attribute where
  name := ⟨"ports", .refl true⟩
  type := .complex
  multiValued := true
  subAttributes := [portNumber]

def site : Attribute where
  name := ⟨"site", .refl true⟩
  type := .string

def location : Attribute where
  name := ⟨"location", .refl true⟩
  type := .complex
  subAttributes := [site]

def devices : Attribute where
  name := ⟨"devices", .refl true⟩
  type := .complex
  multiValued := true
  subAttributes := [location, ports]

def weight : Attribute where
  name := ⟨"weight", .refl true⟩
  type := .decimal
  schema := some ⟨"urn:load", .refl true⟩

def rackType : ResourceType where
  name := "Rack"
  endpoint := "/Racks"
  schema := ⟨"urn:rack", .refl true⟩
  description := ""
  extensions := [⟨⟨"urn:load", .refl true⟩, false⟩]
  attributes := [devices, weight]

/-- The filter `Devices[location[site pr] and ports.number gt "20"] or urn:load:weight eq null`. -/
def rackFilter : Filter :=
  .chain .or
    (.valuePath ⟨none, ⟨"Devices", .refl true⟩, []⟩
      (.chain .and (.valuePath ⟨none, location.name, []⟩ (.presence ⟨none, site.name, []⟩))
        (.comparison ⟨none, ports.name, [portNumber.name]⟩ .gt (.string "20")) []))
    (.comparison ⟨some ⟨"urn:load", .refl true⟩, weight.name, []⟩ .eq .null) []

def rackPredicate : Predicate :=
  .logical .or
    [ .anyElement ⟨["devices"], devices, none⟩
        (.logical .and
          [ .present ⟨["location", "site"], site, none⟩,
            .anyElement ⟨["ports"], ports, none⟩ (.compare ⟨["number"], portNumber, none⟩ .gt (.integer 20)) ]),
      .compare ⟨["weight"], weight, some "urn:load"⟩ .eq .null ]

theorem outline_lower_rack : lower rackType rackFilter = .ok rackPredicate ∧
    Outline.Matches (Asked rackType) (rackFilter.outline none) (rackPredicate.outline []) ∧
    ∀ path ∈ rackFilter.paths, ∃ r, resolve rackType path = .ok r := by
  have hlower : lower rackType rackFilter = .ok rackPredicate := by rfl
  exact ⟨hlower, outline_lower hlower⟩

end Filter

end Scim
