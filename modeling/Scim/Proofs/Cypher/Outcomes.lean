import Scim.Proofs.Cypher.Mirroring

/-!
What conditions say of a node that mirrors a record: an attribute is seen to be assigned if and only if it is, and
a comparison comes out as it does in the record.
-/

namespace Scim.Cypher

variable {sensitive : List Attribute}

namespace Mirrors

variable {leads : PropertyRef → Prop} {env : Binding} {node : Variable} {holder : Value} {parameters : List Value}

/-! Assigned values. -/

section Present

variable {a : Attribute} {extension : Option String} {steps : List String}

theorem presentAs_list (hcomplex : a.isComplex = true) (hmany : a.multiValued = true) :
    presentAs node extension steps a = .hasElement node (PropertyRef.keyOf extension steps) := by
  obtain ⟨name, type, multiValued, required, mutability, uniqueness, returned, caseExact, description,
    canonicalValues, referenceTypes, subAttributes, schema⟩ := a
  obtain rfl : type = .complex := of_decide_eq_true hcomplex
  obtain rfl : multiValued = true := hmany
  rw [presentAs]

theorem presentAs_single (hcomplex : a.isComplex = true) (hsingle : a.multiValued = false) :
    presentAs node extension steps a = .anyPart (presentParts node extension steps a.subAttributes) := by
  obtain ⟨name, type, multiValued, required, mutability, uniqueness, returned, caseExact, description,
    canonicalValues, referenceTypes, subAttributes, schema⟩ := a
  obtain rfl : type = .complex := of_decide_eq_true hcomplex
  obtain rfl : multiValued = false := hsingle
  rw [presentAs]

theorem presentAs_simple (hsimple : a.isComplex = false) :
    presentAs node extension steps a = assignedAs node (PropertyRef.keyOf extension steps) a true := by
  obtain ⟨name, type, multiValued, required, mutability, uniqueness, returned, caseExact, description,
    canonicalValues, referenceTypes, subAttributes, schema⟩ := a
  unfold presentAs
  split
  · cases hsimple
  · cases hsimple
  · rfl

theorem presentParts_eq_map (attributes : List Attribute) :
    presentParts node extension steps attributes =
      attributes.map fun a => presentAs node extension (steps ++ [a.name.text]) a := by
  induction attributes with
  | nil => rfl
  | cons a rest ih => rw [presentParts, ih, List.map_cons]

end Present

theorem anyOf_filterMap {store : Value → Option Value} {test : Value → Truth} {holds : Value → Bool}
    {items : List Value} (h : ∀ v ∈ items, ((store v).map test).getD (some false) = some (holds v)) :
    Truth.anyOf ((items.filterMap store).map test) = some (items.any holds) := by
  induction items with
  | nil => rfl
  | cons v rest ih =>
    obtain ⟨hv, hrest⟩ := List.forall_mem_cons.mp h
    have hrest := ih hrest
    cases hstore : store v with
    | none =>
      rw [hstore] at hv
      rw [List.filterMap_cons_none hstore, hrest, List.any_cons, ← Option.some.inj hv, Bool.false_or]
    | some y =>
      rw [hstore] at hv
      have hy : test y = some (holds v) := hv
      rw [List.filterMap_cons_some hstore, List.map_cons, List.any_cons]
      show Truth.or (test y) (Truth.anyOf _) = _
      rw [hy, hrest]
      cases holds v <;> cases rest.any holds <;> rfl

-- An item is seen to be assigned if and only if it is.
theorem assigned_storedItem? {a : Attribute} {v : Value} (h : a.RegularItem sensitive v)
    (hsimple : a.isComplex = false) :
    ((storedItem? a.type v).map fun y => compare .ne y (.string "")).getD (some false) = some (!v.isEmpty) := by
  cases hassigned : v.isEmpty with
  | true =>
    rcases h.storedItem?_of_isEmpty hsimple hassigned with hnone | ⟨hblank, -, -⟩
    · rw [hnone]
      rfl
    · rw [hblank]
      rfl
  | false =>
    obtain ⟨y, x, hstored⟩ := h.exists_storedAs hsimple hassigned
    rw [hstored.stored]
    exact (Attribute.storedItem?_assigned hstored.stored hassigned).2

theorem property_single (m : Mirrors sensitive leads (env node) holder) {ref : PropertyRef} (href : leads ref)
    (hsimple : ref.attr.isComplex = false) (hsingle : ref.attr.multiValued = false) :
    (env node).property ref.key = (storedItem? ref.attr.type (ref.get holder)).getD .missing := by
  rw [(m.reflects ref href).property hsimple, hsingle]
  rfl

-- What is no list is unassigned, and not stored.
theorem property_many (m : Mirrors sensitive leads (env node) holder) {ref : PropertyRef} (href : leads ref)
    (hsimple : ref.attr.isComplex = false) (hmany : ref.attr.multiValued = true) :
    (∃ items, ref.get holder = .list items ∧
        (env node).property ref.key = .list (items.filterMap (storedItem? ref.attr.type))) ∨
      (env node).property ref.key = .missing ∧ (ref.get holder).isEmpty = true := by
  have hproperty := (m.reflects ref href).property hsimple
  rw [hmany] at hproperty
  cases hget : ref.get holder with
  | list items =>
    rw [hget] at hproperty
    exact .inl ⟨items, rfl, hproperty⟩
  | _ =>
    rw [hget] at hproperty
    refine .inr ⟨hproperty, ?_⟩
    rcases (m.regular ref href).list_or_empty hmany with ⟨items, hitems⟩ | hempty
    · cases hget.symm.trans hitems
    · rwa [hget] at hempty

/-- A simple attribute is seen to be assigned if and only if it is. -/
theorem evaluate_assignedAs (m : Mirrors sensitive leads (env node) holder) {ref : PropertyRef} (href : leads ref)
    (hsimple : ref.attr.isComplex = false) (expected : Bool) :
    (assignedAs node ref.key ref.attr expected).evaluate parameters env =
      some ((!(ref.get holder).isEmpty) == expected) := by
  have hregular := m.regular ref href
  unfold assignedAs
  dsimp only
  by_cases hmany : ref.attr.multiValued = true
  · rw [if_pos hmany, Condition.evaluate]
    rcases m.property_many href hsimple hmany with ⟨items, hitems, hproperty⟩ | ⟨hproperty, hempty⟩
    · rw [hitems] at hregular ⊢
      have hany : Truth.anyOf ((items.filterMap (storedItem? ref.attr.type)).map
          fun y => compare .ne y (.string "")) = some (items.any fun v => !v.isEmpty) :=
        anyOf_filterMap fun v hv => assigned_storedItem? (hregular.items hmany v hv) hsimple
      have hlist : (Value.list items).isEmpty = !(items.any fun v => !v.isEmpty) := by
        rw [Bool.eq_iff_iff, Value.isEmpty_list_iff]
        simp
      rw [hproperty, hlist, Bool.not_not]
      exact congrArg (Option.map (· == expected)) hany
    · rw [hproperty, hempty]
      rfl
  · rw [if_neg hmany]
    have hsingle : ref.attr.multiValued = false := Bool.eq_false_iff.mpr hmany
    have hitem := Attribute.RegularItem.of_single hregular hsingle
    have hproperty := m.property_single href hsimple hsingle
    cases hassigned : (ref.get holder).isEmpty with
    | true =>
      rcases hitem.storedItem?_of_isEmpty hsimple hassigned with hnone | ⟨hblank, htype, -⟩
      · rw [hnone] at hproperty
        split <;> rw [Condition.evaluate, hproperty] <;> rfl
      · rw [hblank] at hproperty
        rw [if_pos htype, Condition.evaluate, hproperty]
        rfl
    | false =>
      obtain ⟨y, x, hstored⟩ := hitem.exists_storedAs hsimple hassigned
      obtain ⟨hnull, hne⟩ := Attribute.storedItem?_assigned hstored.stored hassigned
      rw [hstored.stored] at hproperty
      split
      · rw [Condition.evaluate, hproperty, Option.getD_some, coalesce, hnull, if_neg Bool.false_ne_true, hne]
        rfl
      · rw [Condition.evaluate, hproperty, Option.getD_some, hnull]

/-- Any attribute is seen to be assigned if and only if it is. -/
theorem evaluate_presentAs (m : Mirrors sensitive leads (env node) holder) {a : Attribute} (ha : a.WellFormed)
    {extension : Option String} {steps : List String} (href : leads ⟨steps, a, extension⟩) :
    (presentAs node extension steps a).evaluate parameters env =
      some (!((PropertyRef.mk steps a extension).get holder).isEmpty) := by
  induction ha generalizing steps with
  | intro a _ _ ih =>
    have hregular : a.Regular sensitive _ := m.regular _ href
    by_cases hcomplex : a.isComplex = true
    · by_cases hmany : a.multiValued = true
      · -- the elements are related with the node
        have hvalues := (PropertyRef.values_eq_elementsOf (m.regular _ href) hcomplex hmany).1
        have hrelated := (m.reflects _ href).related hcomplex hmany
        rw [presentAs_list hcomplex hmany, Condition.evaluate, ← PropertyRef.isEmpty_values, hvalues]
        rw [PropertyRef.key] at hrelated
        rw [hrelated, List.isEmpty_map]
      · -- the object is assigned if something is that it holds for the sub-attributes
        have hsingle : a.multiValued = false := Bool.eq_false_iff.mpr hmany
        have hitem := Attribute.RegularItem.of_single hregular hsingle
        have henters := m.enters _ href (by rw [hsingle, Bool.and_false])
        have hparts : (presentParts node extension steps a.subAttributes).map
            (fun c => c.evaluate parameters env) =
              (a.subAttributes.map fun sub =>
                !(((PropertyRef.mk steps a extension).get holder).get sub.name.text).isEmpty).map some := by
          rw [presentParts_eq_map, List.map_map, List.map_map]
          refine List.map_congr_left fun sub hsub => ?_
          have hpart := ih sub hsub (henters sub hsub)
          rw [PropertyRef.get_enter ⟨steps, a, extension⟩ sub holder] at hpart
          exact hpart
        rw [presentAs_single hcomplex hsingle, Condition.evaluate, Condition.evaluateAll_eq_map, hparts,
          Truth.anyOf_map_some, List.any_map]
        refine congrArg some ?_
        have hempty := hitem.isEmpty_iff hcomplex
        rw [← Bool.not_inj_iff, Bool.not_not, Bool.eq_iff_iff, hempty]
        simp
    · have hsimple : a.isComplex = false := Bool.eq_false_iff.mpr hcomplex
      rw [presentAs_simple hsimple]
      have hassigned : (assignedAs node (PropertyRef.keyOf extension steps) a true).evaluate parameters env = _ :=
        m.evaluate_assignedAs href hsimple true
      rwa [beq_true] at hassigned

/-! Comparisons. -/

theorem compare_null (operator : Operator) {v w : Value} (hv : isNull v = true) (hw : isNull w = false) :
    compare operator v w ≠ some true := by
  have hkind : kind v = .null := of_decide_eq_true hv
  have hne : kind w ≠ .null := of_decide_eq_false hw
  have hequal : equal v w = none := by rw [equal, hv, Bool.true_or, if_pos rfl]
  have hbefore : before v w = none := by rw [before, hkind, if_neg hne.symm]
  have hbehind : before w v = none := by rw [before, hkind, if_neg hne]
  have htextual : ∀ test, textual test v w = none := by
    intro test
    cases v <;> first | rfl | cases hkind
  cases operator <;> simp [compare, hequal, hbefore, hbehind, htextual, Truth.or]

theorem isNull_operand {v : Value} (folded : Bool) (h : isNull v = true) : isNull (operand folded v) = true := by
  cases folded with
  | true => cases v <;> first | rfl | cases h
  | false => exact h

section Compare

variable {ref : PropertyRef} {operator : Operator} {given literal : Value}

/-- What is known of a comparison that is made on a node. -/
structure Compares (sensitive : List Attribute) (a : Attribute) (operator : Operator) (given literal : Value) :
    Prop where
  given : a.literal given = .ok literal
  assigned : literal.isNull = false
  supports : operator.supports a.type = true
  transferable : (Comparison.mk a operator literal).Transferable
  blank : (Comparison.mk a operator literal).admitsBlank = true → a ∈ sensitive

/-- Whether an item compares with the literal, as it is stored on a node. -/
def itemOutcome (a : Attribute) (operator : Operator) (literal v : Value) : Truth :=
  Cypher.compare operator (operand (isFolded a) v) (a.passed literal)

variable {a : Attribute} {v : Value}

theorem itemOutcome_null (h : Compares sensitive a operator given literal) (hv : isNull v = true) :
    itemOutcome a operator literal v ≠ some true := by
  refine compare_null operator (isNull_operand _ hv) (isNull_of_isScalar ?_)
  rw [(Attribute.canonical_passed h.given h.assigned h.transferable).2]
  exact isScalar_kindOf (of_decide_eq_false h.transferable.simple)

/-- Some assigned item compares in the record if and only if some stored one does on the node. -/
theorem exists_anyItem_iff (h : Compares sensitive a operator given literal) {items : List Value}
    (hitems : ∀ item ∈ items, a.RegularItem sensitive item) :
    ∃ b, anyItem (compareValue a operator (a.passed literal)) (items.filter (!·.isEmpty)) = .ok b ∧
      ((∃ item ∈ items, ∃ y, storedItem? a.type item = some y ∧ itemOutcome a operator literal y = some true) ↔
        b = true) := by
  have htest : ∀ item ∈ items.filter (!·.isEmpty), ∃ y b, storedItem? a.type item = some y ∧
      compareValue a operator (a.passed literal) item = .ok b ∧
      (itemOutcome a operator literal y = some true ↔ b = true) := by
    intro item hitem
    obtain ⟨hmem, hassigned⟩ := List.mem_filter.mp hitem
    exact (hitems item hmem).compareValue_iff (by simpa using hassigned) h.given h.assigned h.supports h.transferable
  obtain ⟨b, hb⟩ := exists_anyItem_eq_ok fun item hitem => by
    obtain ⟨_, c, _, hc, _⟩ := htest item hitem
    exact ⟨c, hc⟩
  have hfound : b = true ↔ ∃ item ∈ items.filter (!·.isEmpty), ∃ y, storedItem? a.type item = some y ∧
      itemOutcome a operator literal y = some true := by
    refine anyItem_eq_ok (fun item hitem c hc => ?_) hb
    obtain ⟨y, d, hy, hd, hiff⟩ := htest item hitem
    obtain rfl := Except.ok.inj (hd.symm.trans hc)
    rw [← hiff, hy]
    simp
  refine ⟨b, hb, ?_⟩
  rw [hfound]
  constructor
  · rintro ⟨item, hitem, y, hy, houtcome⟩
    refine ⟨item, List.mem_filter.mpr ⟨hitem, ?_⟩, y, hy, houtcome⟩
    -- nothing that is stored of an unassigned item compares
    cases hassigned : item.isEmpty with
    | false => rfl
    | true =>
      rcases (hitems item hitem).storedItem?_of_isEmpty h.transferable.simple hassigned with
        hnone | ⟨hblank, htype, hsensitive⟩
      · cases hnone.symm.trans hy
      · obtain rfl := Option.some.inj (hblank.symm.trans hy)
        have hadmits := Bool.eq_false_iff.mpr fun hadmits => hsensitive (h.blank hadmits)
        exact absurd houtcome (Attribute.compare_blank h.given h.assigned htype hadmits)
  · rintro ⟨item, hitem, hstored⟩
    exact ⟨item, (List.mem_filter.mp hitem).1, hstored⟩

/-- A comparison with a literal other than null comes out the same. -/
theorem exists_compare_iff (m : Mirrors sensitive leads (env node) holder) (href : leads ref)
    (h : Compares sensitive ref.attr operator given literal) {parameter : Nat}
    (hparameter : parameters.getD parameter .null = ref.attr.passed literal) :
    ∃ b, matchCompare ref operator literal holder = .ok b ∧
      (Condition.evaluate parameters
          (if ref.attr.multiValued then .compareAny ⟨node, ref.key⟩ (isFolded ref.attr) operator parameter
            else .compare ⟨node, ref.key⟩ (isFolded ref.attr) operator parameter) env = some true ↔ b = true) := by
  have hsimple : ref.attr.isComplex = false := h.transferable.simple
  have hregular := m.regular ref href
  have hcanonical := (Attribute.canonical_passed h.given h.assigned h.transferable).1
  have hmatch : matchCompare ref operator literal holder =
      anyItem (compareValue ref.attr operator (ref.attr.passed literal)) (ref.values holder) := by
    have hcomparable : comparable ref.attr literal = .ok (some (ref.attr.passed literal)) := by
      rw [comparable, hcanonical]
    unfold matchCompare
    split
    · cases h.assigned
    · rw [hcomparable]
      rfl
  rw [hmatch]
  by_cases hmany : ref.attr.multiValued = true
  · rw [if_pos hmany, Condition.evaluate, hparameter]
    rcases m.property_many href hsimple hmany with ⟨items, hitems, hproperty⟩ | ⟨hproperty, hempty⟩
    · rw [hitems] at hregular
      obtain ⟨b, hb, hiff⟩ := exists_anyItem_iff h (hregular.items hmany)
      refine ⟨b, by rw [PropertyRef.values_of_list hitems, hb], ?_⟩
      rw [← hiff, hproperty, anyItemOf, Truth.anyOf_eq_true_iff, List.mem_map]
      constructor
      · rintro ⟨y, hy, houtcome⟩
        obtain ⟨item, hitem, hstored⟩ := List.mem_filterMap.mp hy
        exact ⟨item, hitem, y, hstored, houtcome⟩
      · rintro ⟨item, hitem, y, hstored, houtcome⟩
        exact ⟨y, List.mem_filterMap.mpr ⟨item, hitem, hstored⟩, houtcome⟩
    · refine ⟨false, by rw [PropertyRef.values_of_isEmpty hempty]; rfl, ?_⟩
      rw [hproperty]
      simp [anyItemOf]
  · have hsingle : ref.attr.multiValued = false := Bool.eq_false_iff.mpr hmany
    have hitem := Attribute.RegularItem.of_single hregular hsingle
    obtain ⟨b, hb, hiff⟩ := exists_anyItem_iff h (List.forall_mem_singleton.mpr hitem)
    rw [if_neg hmany, Condition.evaluate, hparameter, m.property_single href hsimple hsingle]
    refine ⟨b, by rw [PropertyRef.values_of_item hitem, hb], ?_⟩
    rw [← hiff]
    cases hstored : storedItem? ref.attr.type (ref.get holder) with
    | none =>
      have hmissing : itemOutcome ref.attr operator literal .missing ≠ some true := itemOutcome_null h rfl
      simpa [hstored, itemOutcome] using hmissing
    | some y => simp [hstored, itemOutcome]

/-- A comparison comes out the same, be it with null or not. -/
theorem exists_matchCompare_iff (m : Mirrors sensitive leads (env node) holder) (href : leads ref)
    (hfits : operator.fits ref.attr literal) (hgiven : ref.attr.literal given = .ok literal)
    (htransferable : (Comparison.mk ref.attr operator literal).Transferable)
    (hblank : (Comparison.mk ref.attr operator literal).admitsBlank = true → ref.attr ∈ sensitive)
    {n n' : Numbering} {c : Condition} (hc : compareOf node ref operator literal n = .ok (c, n'))
    (hparameters : n'.parameters <+: parameters) :
    ∃ b, matchCompare ref operator literal holder = .ok b ∧ (c.evaluate parameters env = some true ↔ b = true) := by
  cases hnull : literal.isNull with
  | true =>
    obtain rfl : literal = .null := by cases literal <;> first | rfl | cases hnull
    obtain ⟨rfl, rfl⟩ := Prod.mk.inj (Except.ok.inj hc)
    refine ⟨_, rfl, ?_⟩
    rw [m.evaluate_assignedAs href htransferable.simple, PropertyRef.isEmpty_values]
    by_cases heq : operator = .eq <;> cases (ref.get holder).isEmpty <;> simp [heq]
  | false =>
    obtain ⟨v, hv, rfl, rfl⟩ := compareOf_eq_ok hnull hc
    obtain rfl := Except.ok.inj ((parameterFor_literal hgiven hnull).symm.trans hv)
    rw [Operator.fits, hnull, if_neg Bool.false_ne_true] at hfits
    refine m.exists_compare_iff href ⟨hgiven, hnull, hfits, htransferable, hblank⟩ ?_
    -- the parameter has the number of those before it
    obtain ⟨more, rfl⟩ := hparameters
    simp [Numbering.addParameter, List.getD_eq_getElem?_getD]

end Compare

end Mirrors

end Scim.Cypher
