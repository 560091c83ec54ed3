import Scim.Proofs.Lowering.Typing

/-!
Where the references of a lowered predicate lead: from the top level of a resource type, or from the inside
of the elements that the predicate asks for, through single complex attributes.
-/

namespace Scim

/-- The steps lead from some attributes to one of them, or through one that is no list to the attributes
inside it. -/
inductive Attribute.Leads : List Attribute → List String → Attribute → Prop
  | here {attributes : List Attribute} {a : Attribute} (h : a ∈ attributes) :
    Leads attributes [a.name.text] a
  | through {attributes : List Attribute} {a b : Attribute} {steps : List String} (h : a ∈ attributes)
    (hsingle : (a.isComplex && a.multiValued) = false) (hinside : Leads a.subAttributes steps b) :
    Leads attributes (a.name.text :: steps) b

theorem Attribute.Leads.mono {attributes more : List Attribute} {steps : List String} {a : Attribute}
    (hsub : attributes ⊆ more) : Leads attributes steps a → Leads more steps a
  | here h => here (hsub h)
  | through h hsingle hinside => through (hsub h) hsingle hinside

namespace PropertyRef

/-- The reference leads from a record of a resource type to one of its attributes. -/
def InRecord (rt : ResourceType) (ref : PropertyRef) : Prop :=
  ∃ top ∈ rt.attributes, ref.extension = rt.extensionOf? top ∧ Attribute.Leads [top] ref.steps ref.attr

/-- The reference leads from an element to an attribute in it. -/
def InElement (a : Attribute) (ref : PropertyRef) : Prop :=
  ref.extension = none ∧ Attribute.Leads a.subAttributes ref.steps ref.attr

end PropertyRef

namespace Predicate

mutual

/-- The references of a predicate lead where they may, and what it asks of them fits their attributes. -/
def Scoped (leads : PropertyRef → Prop) : Predicate → Prop
  | .compare ref operator literal =>
    leads ref ∧ operator.fits ref.attr literal ∧ ∃ given, ref.attr.literal given = .ok literal
  | .present ref => leads ref
  | .logical operator children => (operator = .not → children.length = 1) ∧ AllScoped leads children
  | .anyElement ref inner =>
    leads ref ∧ (ref.attr.isComplex && ref.attr.multiValued) = true ∧
      inner.Scoped (PropertyRef.InElement ref.attr)

def AllScoped (leads : PropertyRef → Prop) : List Predicate → Prop
  | [] => True
  | p :: rest => p.Scoped leads ∧ AllScoped leads rest

end

end Predicate

/-! What a place guarantees of the references that are made there. -/

/-- Whatever an attribute leads to, references from the place may lead to. -/
def Place.Opens (leads : PropertyRef → Prop) (p : Place) (a : Attribute) : Prop :=
  ∀ steps b, Attribute.Leads [a] steps b →
    leads { steps := p.entered.map (·.name.text) ++ steps, attr := b, extension := p.extension }

namespace Place

variable {leads : PropertyRef → Prop} {p : Place} {a b : Attribute}

theorem Opens.ref (h : p.Opens leads a) : leads (p.ref a) := by
  have hleads := h [a.name.text] a (.here List.mem_cons_self)
  rw [Place.ref, List.map_append]
  exact hleads

theorem Opens.enter (h : p.Opens leads a) (hsingle : (a.isComplex && a.multiValued) = false)
    (hb : b ∈ a.subAttributes) : (p.enter a).Opens leads b := by
  intro steps c hc
  have hinside : Attribute.Leads a.subAttributes steps c := hc.mono (List.cons_subset.mpr ⟨hb, List.nil_subset _⟩)
  have hleads := h (a.name.text :: steps) c (.through List.mem_cons_self hsingle hinside)
  rw [Place.enter, List.map_append, List.append_assoc]
  exact hleads

theorem opens_element (hb : b ∈ a.subAttributes) : Place.element.Opens (PropertyRef.InElement a) b :=
  fun _ _ hc => ⟨rfl, hc.mono (List.cons_subset.mpr ⟨hb, List.nil_subset _⟩)⟩

theorem opens_top {rt : ResourceType} {top : Attribute} (h : top ∈ rt.attributes) :
    Place.Opens (PropertyRef.InRecord rt) ⟨rt.extensionOf? top, []⟩ top :=
  fun _ _ hc => ⟨top, h, rfl, hc⟩

end Place

namespace Filter

theorem mem_subAttributes_of_sub? {a sub : Attribute} {name : String} (h : a.sub? name = some sub) :
    sub ∈ a.subAttributes :=
  List.mem_of_find?_eq_some h

/-- Each attribute is inside the one before it. -/
def Nested : Attribute → List Attribute → Prop
  | _, [] => True
  | a, b :: rest => b ∈ a.subAttributes ∧ Nested b rest

theorem nested_of_descend? {a : Attribute} {names : List AttrName} {more : List Attribute}
    (h : descend? a names = some more) : Nested a more := by
  induction names generalizing a more with
  | nil =>
    obtain rfl := Option.some.inj h
    trivial
  | cons name rest ih =>
    simp only [descend?, Option.bind_eq_bind, Option.bind_eq_some_iff] at h
    obtain ⟨sub, hsub, below, hbelow, h⟩ := h
    obtain rfl := Option.some.inj h
    exact ⟨mem_subAttributes_of_sub? hsub, ih hbelow⟩

theorem Nested.append {first sub : Attribute} {more : List Attribute} (h : Nested first more)
    (hsub : sub ∈ (lastOf first more).subAttributes) : Nested first (more ++ [sub]) := by
  induction more generalizing first with
  | nil => exact ⟨hsub, trivial⟩
  | cons next rest ih =>
    rw [lastOf_cons] at hsub
    exact ⟨h.1, ih h.2 hsub⟩

/-- What references in a scope may lead to. -/
def leadsIn (rt : ResourceType) (leads : PropertyRef → Prop) : Option Scope → Prop
  | none => leads = PropertyRef.InRecord rt
  | some s => ∀ b ∈ s.resolved.attr.subAttributes, s.place.Opens leads b

variable {rt : ResourceType} {leads : PropertyRef → Prop} {scope : Option Scope} {path : AttrPath}

-- A located path starts at an attribute that its place opens.
theorem opens_of_locate {l : Located} (hscope : leadsIn rt leads scope) (h : locate rt scope path = .ok l) :
    l.place.Opens leads l.first ∧ Nested l.first l.more := by
  have hpassed := (locates h).passed
  unfold passed? at hpassed
  cases scope with
  | none =>
    simp only [ownerOf, Option.map_none, Option.bind_eq_bind, Option.bind_eq_some_iff] at hpassed
    obtain ⟨first, hfirst, more, hmore, hpassed⟩ := hpassed
    obtain ⟨hl, rfl⟩ := Prod.mk.inj (Option.some.inj hpassed)
    rw [hl] at hfirst hmore
    obtain rfl : leads = PropertyRef.InRecord rt := hscope
    obtain ⟨r, -, hr⟩ := Except.bind_eq_ok_iff.mp h
    obtain rfl := Except.ok.inj hr
    exact ⟨Place.opens_top (List.mem_of_find?_eq_some hfirst), nested_of_descend? hmore⟩
  | some s =>
    simp only [ownerOf, Option.map_some, Option.bind_eq_bind, Option.bind_eq_some_iff] at hpassed
    obtain ⟨first, hfirst, more, hmore, hpassed⟩ := hpassed
    obtain ⟨hl, rfl⟩ := Prod.mk.inj (Option.some.inj hpassed)
    rw [hl] at hfirst hmore
    obtain ⟨⟨full, first, more⟩, -, hr⟩ := Except.bind_eq_ok_iff.mp h
    obtain rfl := Except.ok.inj hr
    exact ⟨hscope _ (mem_subAttributes_of_sub? hfirst), nested_of_descend? hmore⟩

theorem scoped_alongPath {build : Place → Attribute → Except LoweringError Predicate} {p : Place}
    {first : Attribute} {more : List Attribute} {q : Predicate} (hopens : p.Opens leads first)
    (hnested : Nested first more)
    (hbuild : ∀ leads p q, p.Opens leads (lastOf first more) → build p (lastOf first more) = .ok q →
      q.Scoped leads)
    (h : alongPath build p first more = .ok q) : q.Scoped leads := by
  induction more generalizing leads p first q with
  | nil => exact hbuild leads p q hopens h
  | cons next rest ih =>
    rw [lastOf_cons] at hbuild
    rw [alongPath] at h
    by_cases hlist : (first.isComplex && first.multiValued) = true
    · rw [if_pos hlist] at h
      obtain ⟨inner, hinner, rfl⟩ := Except.map_eq_ok_iff.mp h
      exact ⟨hopens.ref, hlist, ih (Place.opens_element hnested.1) hnested.2 hbuild hinner⟩
    · rw [if_neg hlist] at h
      have hsingle : (first.isComplex && first.multiValued) = false := Bool.eq_false_iff.mpr hlist
      exact ih (hopens.enter hsingle hnested.1) hnested.2 hbuild h

theorem scoped_lowerComparison {operator : Operator} {literal : Value} {q : Predicate}
    (hscope : leadsIn rt leads scope) (h : lowerComparison rt scope path operator literal = .ok q) :
    q.Scoped leads := by
  simp only [lowerComparison, Except.bind_eq_ok_iff] at h
  obtain ⟨l, hl, l', hl', u, hcheck, h⟩ := h
  cases hv : l'.resolved.attr.literal literal with
  | error e =>
    rw [hv] at h
    exact nomatch h
  | ok v =>
    rw [hv] at h
    obtain ⟨hopens, hnested⟩ := opens_of_locate hscope hl
    obtain ⟨-, hfirst, hplace, hlast⟩ := comparison?_of_toComparable (locates hl) hl' hv
    have hnested' : Nested l'.first l'.more := by
      unfold toComparable at hl'
      split at hl'
      · split at hl'
        · exact nomatch hl'
        · rename_i sub hsub
          obtain rfl := Except.ok.inj hl'
          rw [(locates hl).last] at hsub
          exact hnested.append (mem_subAttributes_of_sub? hsub)
      · obtain rfl := Except.ok.inj hl'
        exact hnested
    refine scoped_alongPath (hplace ▸ hfirst ▸ hopens) hnested' ?_ h
    intro leads p q hp hq
    obtain rfl := Except.ok.inj hq
    refine ⟨hp.ref, ?_⟩
    rw [← hlast]
    exact ⟨fits_of_checkOperator hcheck hv, literal, hv⟩

theorem scoped_lowerPresence {q : Predicate} (hscope : leadsIn rt leads scope)
    (h : lowerPresence rt scope path = .ok q) : q.Scoped leads := by
  obtain ⟨l, hl, h⟩ := Except.bind_eq_ok_iff.mp h
  obtain ⟨hopens, hnested⟩ := opens_of_locate hscope hl
  refine scoped_alongPath hopens hnested ?_ h
  intro leads p q hp hq
  obtain rfl := Except.ok.inj hq
  exact hp.ref

theorem scoped_lowerValuePath {inner : Scope → Except LoweringError Predicate} {q : Predicate}
    (hscope : leadsIn rt leads scope)
    (hinner : ∀ leads s q, leadsIn rt leads (some s) → inner s = .ok q → q.Scoped leads)
    (h : lowerValuePath rt scope path inner = .ok q) : q.Scoped leads := by
  rw [lowerValuePath, Except.bind_eq_ok_iff] at h
  obtain ⟨l, hl, h⟩ := h
  obtain ⟨hopens, hnested⟩ := opens_of_locate hscope hl
  by_cases hcomplex : l.resolved.attr.isComplex = true
  · simp only [hcomplex] at h
    refine scoped_alongPath hopens hnested ?_ h
    rw [← (locates hl).last]
    intro leads p q hp hq
    by_cases hlist : l.resolved.attr.multiValued = true
    · rw [if_pos hlist] at hq
      obtain ⟨body, hbody, rfl⟩ := Except.map_eq_ok_iff.mp hq
      refine ⟨hp.ref, ?_, hinner _ ⟨l.resolved, .element⟩ body (fun b hb => Place.opens_element hb) hbody⟩
      show (l.resolved.attr.isComplex && l.resolved.attr.multiValued) = true
      rw [hcomplex, hlist, Bool.and_self]
    · rw [if_neg hlist] at hq
      have hsingle : (l.resolved.attr.isComplex && l.resolved.attr.multiValued) = false := by
        rw [Bool.eq_false_iff.mpr hlist, Bool.and_false]
      exact hinner leads ⟨l.resolved, p.enter l.resolved.attr⟩ q (fun b hb => hp.enter hsingle hb) hq
  · simp only [hcomplex] at h
    cases h

mutual

theorem scoped_lowerIn (rt : ResourceType) : ∀ {f : Filter} {leads : PropertyRef → Prop}
    {scope : Option Scope} {q : Predicate}, leadsIn rt leads scope → lowerIn rt scope f = .ok q →
    q.Scoped leads
  | .comparison _ _ _, _, _, _, hscope, h => by
    rw [lowerIn] at h
    exact scoped_lowerComparison hscope h
  | .presence _, _, _, _, hscope, h => by
    rw [lowerIn] at h
    exact scoped_lowerPresence hscope h
  | .valuePath _ inner, _, _, _, hscope, h => by
    rw [lowerIn] at h
    exact scoped_lowerValuePath hscope (fun _ _ _ hs hq => scoped_lowerIn rt hs hq) h
  | .negation inner, _, _, _, hscope, h => by
    obtain ⟨p, hp, hq⟩ := Except.bind_eq_ok_iff.mp h
    obtain rfl := Except.ok.inj hq
    exact ⟨fun _ => rfl, scoped_lowerIn rt hscope hp, trivial⟩
  | .chain connective first second more, _, _, _, hscope, h => by
    simp only [lowerIn, Except.bind_eq_ok_iff] at h
    obtain ⟨p, hp, p', hp', ps, hps, hq⟩ := h
    obtain rfl := Except.ok.inj hq
    refine ⟨fun hnot => ?_, scoped_lowerIn rt hscope hp, scoped_lowerIn rt hscope hp',
      allScoped_lowerAll rt hscope hps⟩
    cases connective <;> exact nomatch hnot

theorem allScoped_lowerAll (rt : ResourceType) : ∀ {fs : List Filter} {leads : PropertyRef → Prop}
    {scope : Option Scope} {ps : List Predicate}, leadsIn rt leads scope →
    lowerAll rt scope fs = .ok ps → Predicate.AllScoped leads ps
  | [], _, _, _, _, h => by
    obtain rfl := Except.ok.inj h
    trivial
  | f :: rest, _, _, _, hscope, h => by
    simp only [lowerAll, Except.bind_eq_ok_iff] at h
    obtain ⟨p, hp, ps', hps, hq⟩ := h
    obtain rfl := Except.ok.inj hq
    exact ⟨scoped_lowerIn rt hscope hp, allScoped_lowerAll rt hscope hps⟩

end

/-- The references of a lowered predicate lead to attributes of the resource type. -/
theorem scoped_lower {f : Filter} {p : Predicate} (h : lower rt f = .ok p) :
    p.Scoped (PropertyRef.InRecord rt) :=
  scoped_lowerIn rt (show leadsIn rt (PropertyRef.InRecord rt) none from rfl) h

end Filter

end Scim
