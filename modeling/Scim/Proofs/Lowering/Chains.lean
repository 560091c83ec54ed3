import Scim.Proofs.Lowering.Typing

/-!
Chains of attributes: what paths resolve to, and how references cut them where an element of a list is asked for.
-/

namespace Scim

/-! Resolution. -/

/-- Names lead from an attribute to sub-attributes, each inside the one before it. -/
inductive Attribute.Descends : Attribute → List AttrName → List Attribute → Prop
  | done (a : Attribute) : Descends a [] []
  | step {a sub : Attribute} {name : AttrName} {names : List AttrName} {more : List Attribute}
    (complex : a.isComplex = true) (found : a.sub? name.text = some sub) (rest : Descends sub names more) :
    Descends a (name :: names) (sub :: more)

theorem Attribute.Descends.append {a : Attribute} {names names' : List AttrName} {more more' : List Attribute}
    (h : a.Descends names more) (h' : (Filter.lastOf a more).Descends names' more') :
    a.Descends (names ++ names') (more ++ more') := by
  induction h with
  | done a => exact h'
  | step complex found _ ih =>
    rw [Filter.lastOf_cons] at h'
    exact .step complex found (ih h')

namespace Filter

variable {rt : ResourceType} {full path : AttrPath} {a sub : Attribute} {name : AttrName} {names : List AttrName}
  {more : List Attribute} {parent r : Resolved}

theorem subOf_eq_ok_iff : subOf full a name = .ok sub ↔ a.isComplex = true ∧ a.sub? name.text = some sub := by
  unfold subOf
  cases hcomplex : a.isComplex with
  | false => simp
  | true =>
    cases hfound : a.sub? name.text with
    | none => simp
    | some found => simp

theorem follow_eq_ok_iff : follow full a names = .ok more ↔ a.Descends names more := by
  induction names generalizing a more with
  | nil =>
    refine ⟨fun h => ?_, fun h => ?_⟩
    · obtain rfl := Except.ok.inj h
      exact .done a
    · cases h
      rfl
  | cons name rest ih =>
    rw [follow, Except.bind_eq_ok_iff]
    refine ⟨fun h => ?_, fun h => ?_⟩
    · obtain ⟨sub, hsub, h⟩ := h
      obtain ⟨below, hbelow, h⟩ := Except.bind_eq_ok_iff.mp h
      obtain rfl := Except.ok.inj h
      obtain ⟨hcomplex, hfound⟩ := subOf_eq_ok_iff.mp hsub
      exact .step hcomplex hfound (ih.mp hbelow)
    · cases h with
      | step complex found rest =>
        refine ⟨_, subOf_eq_ok_iff.mpr ⟨complex, found⟩, ?_⟩
        rw [ih.mpr rest]
        rfl

-- Behind a known prefix and attribute, a path resolves as its names lead on.
theorem resolve_eq_follow {top : Attribute}
    (hschema : ∀ uri, path.schema = some uri → rt.hasSchema uri.text = true)
    (htop : rt.attribute? path.attr.text (path.schema.map (·.text)) = some top) :
    resolve rt path = (follow path top path.subs).map fun below => ⟨path, top, below⟩ := by
  unfold resolve
  simp only [htop]
  cases huri : path.schema with
  | none => cases follow path top path.subs <;> rfl
  | some uri =>
    simp only [hschema uri huri]
    cases follow path top path.subs <;> rfl

theorem resolve_eq_ok_iff : resolve rt path = .ok r ↔
    (∀ uri, path.schema = some uri → rt.hasSchema uri.text = true) ∧
      ∃ top below, rt.attribute? path.attr.text (path.schema.map (·.text)) = some top ∧
        top.Descends path.subs below ∧ r = ⟨path, top, below⟩ := by
  refine ⟨fun h => ?_, ?_⟩
  · obtain ⟨top, below, htop, hbelow, rfl⟩ := found_of_resolve h
    refine ⟨fun uri huri => by_contra fun hunknown => ?_, top, below, htop, follow_eq_ok_iff.mp hbelow, rfl⟩
    unfold resolve at h
    simp only [huri, hunknown] at h
    cases h
  · rintro ⟨hschema, top, below, htop, hbelow, rfl⟩
    rw [resolve_eq_follow hschema htop, follow_eq_ok_iff.mpr hbelow]
    rfl

/-- A resolved path is extended by names that lead on from its attribute. -/
theorem resolve_child (h : resolve rt path = .ok r) (h' : r.attr.Descends names more) :
    resolve rt (path.child names) = .ok (r.extend (path.child names) more) := by
  obtain ⟨hschema, top, below, htop, hbelow, rfl⟩ := resolve_eq_ok_iff.mp h
  exact resolve_eq_ok_iff.mpr ⟨hschema, top, below ++ more, htop, hbelow.append h', rfl⟩

theorem path_of_resolve (h : resolve rt path = .ok r) : r.path = path := by
  obtain ⟨-, top, below, -, -, rfl⟩ := resolve_eq_ok_iff.mp h
  rfl

theorem followInside_eq (h : path.schema = none) : followInside parent path = do
    let first ← subOf (parent.path.child path.segments) parent.attr path.attr
    return (parent.path.child path.segments, first, ← follow (parent.path.child path.segments) first path.subs) := by
  rw [followInside, h]
  rfl

theorem descends_of_followInside {first : Attribute} (h : followInside parent path = .ok (full, first, more)) :
    full = parent.path.child path.segments ∧ parent.attr.Descends path.segments (first :: more) := by
  unfold followInside at h
  cases hschema : path.schema.isSome with
  | true =>
    simp only [hschema] at h
    cases h
  | false =>
    simp only [hschema] at h
    obtain ⟨sub, hsub, h⟩ := Except.bind_eq_ok_iff.mp h
    obtain ⟨below, hbelow, h⟩ := Except.bind_eq_ok_iff.mp h
    obtain ⟨rfl, hpair⟩ := Prod.mk.inj (Except.ok.inj h)
    obtain ⟨rfl, rfl⟩ := Prod.mk.inj hpair
    obtain ⟨hcomplex, hfound⟩ := subOf_eq_ok_iff.mp hsub
    exact ⟨rfl, .step hcomplex hfound (follow_eq_ok_iff.mp hbelow)⟩

end Filter

/-! Cuts. -/

/-- A chain of attributes is cut behind its lists of complex values into references to these, from the outside in, and a
reference to its end.  In between are single complex values.  Only the outermost reference leads into an extension. -/
inductive Cuts : Option String → List Attribute → List PropertyRef → PropertyRef → Prop
  | last {extension : Option String} {entered : List Attribute} {a : Attribute}
    (single : ∀ b ∈ entered, b.isComplex = true ∧ b.multiValued = false) :
    Cuts extension (entered ++ [a]) [] ⟨(entered ++ [a]).map (·.name.text), a, extension⟩
  | element {extension : Option String} {entered chain : List Attribute} {a : Attribute} {elements : List PropertyRef}
    {ref : PropertyRef} (single : ∀ b ∈ entered, b.isComplex = true ∧ b.multiValued = false)
    (complex : a.isComplex = true) (list : a.multiValued = true) (inside : Cuts none chain elements ref) :
    Cuts extension (entered ++ a :: chain) (⟨(entered ++ [a]).map (·.name.text), a, extension⟩ :: elements) ref

/-- The steps of the references are the names of the chain. -/
theorem Cuts.steps {extension : Option String} {chain : List Attribute} {elements : List PropertyRef}
    {ref : PropertyRef} (h : Cuts extension chain elements ref) :
    (elements ++ [ref]).flatMap (·.steps) = chain.map (·.name.text) := by
  induction h with
  | last single => simp
  | element single complex list inside ih =>
    rw [List.cons_append, List.flatMap_cons, ih]
    simp

namespace Place

/-- What a place is reached by: a chain of attributes, cut into references to the lists whose elements it is in.  If
the rest of a chain is cut at the place, so is the whole chain. -/
structure Reached (extension : Option String) (chain : List Attribute) (elements : List PropertyRef) (p : Place) :
    Prop where
  single : ∀ b ∈ p.entered, b.isComplex = true ∧ b.multiValued = false
  cuts : ∀ {rest : List Attribute} {more : List PropertyRef} {ref : PropertyRef},
    Cuts p.extension (p.entered ++ rest) more ref → Cuts extension (chain ++ rest) (elements ++ more) ref

variable {extension : Option String} {chain : List Attribute} {elements : List PropertyRef} {p : Place} {a : Attribute}

theorem reached_top (extension : Option String) : Reached extension [] [] ⟨extension, []⟩ :=
  ⟨fun _ hb => absurd hb List.not_mem_nil, fun h => h⟩

theorem Reached.enter (h : p.Reached extension chain elements) (hcomplex : a.isComplex = true)
    (hsingle : a.multiValued = false) : (p.enter a).Reached extension (chain ++ [a]) elements := by
  refine ⟨List.forall_mem_append.mpr ⟨h.single, List.forall_mem_singleton.mpr ⟨hcomplex, hsingle⟩⟩, fun hcuts => ?_⟩
  rw [List.append_assoc]
  refine h.cuts ?_
  rwa [Place.enter, List.append_assoc] at hcuts

theorem Reached.element (h : p.Reached extension chain elements) (hcomplex : a.isComplex = true)
    (hlist : a.multiValued = true) : Place.element.Reached extension (chain ++ [a]) (elements ++ [p.ref a]) := by
  refine ⟨fun _ hb => absurd hb List.not_mem_nil, fun hcuts => ?_⟩
  rw [List.append_assoc, List.append_assoc]
  exact h.cuts (.element h.single hcomplex hlist hcuts)

theorem Reached.ref (h : p.Reached extension chain elements) (a : Attribute) :
    Cuts extension (chain ++ [a]) elements (p.ref a) := by
  have hcuts : Cuts extension (chain ++ [a]) (elements ++ []) (p.ref a) := h.cuts (.last h.single)
  rwa [List.append_nil] at hcuts

end Place

end Scim
