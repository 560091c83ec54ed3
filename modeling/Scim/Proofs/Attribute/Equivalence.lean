import Scim.Proofs.Attribute.Reflexivity
import Scim.Proofs.Attribute.WellFormed

/-!
The values of an attribute are compared by an equivalence, as long as comparisons come to an end and objects further
inside have something assigned only where one of their sub-attributes has.  Lists are equal exactly if their items pair
off, so the order of items does not matter.

The induction is on the levels of the definition.  What a level takes from the one below is that equal values are both
assigned or both unassigned: two objects count as equal where both leave a sub-attribute unassigned, and that is
transitive only together with this.
-/

namespace Scim

-- Two answers that both come to an end.
theorem Except.eq_of_ok_true_iff {ε : Type} {x y : Except ε Bool} (hx : ∃ b, x = .ok b) (hy : ∃ b, y = .ok b)
    (h : x = .ok true ↔ y = .ok true) : x = y := by
  obtain ⟨b, rfl⟩ := hx
  obtain ⟨c, rfl⟩ := hy
  cases b with
  | true => exact (h.mp rfl).symm
  | false =>
    cases c with
    | true => exact h.mpr rfl
    | false => rfl

namespace Value

variable {v w : Value}

def isList : Value → Bool
  | .list _ => true
  | _ => false

theorem exists_of_isList (h : v.isList = true) : ∃ items, v = .list items := by
  cases v with
  | list items => exact ⟨items, rfl⟩
  | _ => exact nomatch h

theorem isKey_iff : v.isKey = true ↔ v.isList = false ∧ v.isObject = false := by
  cases v <;> simp [isKey, isList, isObject]

theorem isList_of_isObject (h : v.isObject = true) : v.isList = false := by
  cases v with
  | object fields => rfl
  | _ => exact nomatch h

theorem isList_of_same (h : v.same w = true) : v.isList = w.isList := by
  cases v with
  | list vs =>
    obtain ⟨ws, rfl, -⟩ := same_list_iff.mp h
    rfl
  | _ =>
    cases w with
    | list ws => simp [same, point?] at h
    | _ => rfl

theorem isObject_of_same (h : v.same w = true) : v.isObject = w.isObject := by
  cases v with
  | object fs =>
    obtain ⟨gs, rfl, -⟩ := same_object_iff.mp h
    rfl
  | _ =>
    cases w with
    | object gs => simp [same, point?] at h
    | _ => rfl

-- Every item and every field of the first value has one that is the same in the second.
theorem isEmpty_of_same (h : v.same w = true) (hw : w.isEmpty = true) : v.isEmpty = true := by
  induction v using memberInduction generalizing w with
  | key v hkey =>
    cases v with
    | list items => cases hkey
    | object fields => cases hkey
    | missing => rfl
    | null => rfl
    | string s =>
      cases w with
      | string t =>
        obtain rfl : s = t := by simpa [same] using h
        exact hw
      | _ => simp [same, point?] at h
    | _ =>
      cases w with
      | bool b => cases hw
      | integer i => cases hw
      | decimal d => cases hw
      | dateTime t => cases hw
      | _ => simp [same, point?] at h
  | list items ih =>
    obtain ⟨ws, rfl, hpairs⟩ := same_list_iff.mp h
    rw [isEmpty_list_iff] at hw ⊢
    clear h
    induction hpairs with
    | nil => exact fun x hx => absurd hx List.not_mem_nil
    | cons hxy _ ihrest =>
      obtain ⟨hfirst, hrest⟩ := List.forall_mem_cons.mp hw
      refine List.forall_mem_cons.mpr ⟨ih _ List.mem_cons_self hxy hfirst, ?_⟩
      exact ihrest (fun x hx => ih x (List.mem_cons_of_mem _ hx)) hrest
  | object fields ih =>
    obtain ⟨gs, rfl, -, hfields⟩ := same_object_iff.mp h
    refine isEmpty_object_iff.mpr fun f hf => ?_
    obtain ⟨y, hlookup, hsame⟩ := hfields f hf
    exact ih f hf hsame (isEmpty_of_mem_object hw _ (Fields.mem_of_lookup hlookup))

end Value

-- No date-time is read from an empty text.
theorem Value.assigned_of_toDateTime {v : Value} {t : DateTime} (h : v.toDateTime = .ok t) :
    v.isKey = true ∧ v.isEmpty = false := by
  cases v with
  | dateTime u => exact ⟨rfl, rfl⟩
  | string s =>
    refine ⟨rfl, decide_eq_false ?_⟩
    rintro rfl
    exact nomatch h
  | _ => exact nomatch h

theorem Text.enforceOpaque_ne_nil {cs form : List Char} (h : Text.enforceOpaque cs = .ok form) : form ≠ [] := by
  unfold Text.enforceOpaque at h
  simp only at h
  split at h
  · exact nomatch h
  · rename_i hassigned
    split at h
    · exact nomatch h
    · obtain rfl := Except.ok.inj h
      exact fun hnil => hassigned (List.isEmpty_iff.mpr hnil)

theorem canonicalText_empty (caseExact : Bool) : ∃ e, canonicalText caseExact "" = .error e :=
  ⟨_, rfl⟩

theorem canonicalText_ne_empty {caseExact : Bool} {s t : String} (h : canonicalText caseExact s = .ok t) :
    t ≠ "" := by
  obtain ⟨form, hform, hresult⟩ := Except.bind_eq_ok_iff.mp h
  obtain rfl := Except.ok.inj hresult
  intro hempty
  have hne := Text.enforceOpaque_ne_nil hform
  cases caseExact with
  | true => exact hne (String.ofList_eq_empty_iff.mp hempty)
  | false =>
    have hlower : Text.lower (String.ofList form) = "" := by rwa [Text.lower, String.toList_ofList]
    exact hne (String.ofList_eq_empty_iff.mp (Text.lower_eq_empty hlower))

namespace Attribute

variable {a sub : Attribute} {u v w : Value}

/-! Values without a look inside. -/

-- A value is compared as it is, or by a form that is assigned, as the value is, and like it no list or object.
theorem form_cases (a : Attribute) (v : Value) : (a.form v).2 = v ∨
    (v.isKey = true ∧ v.isEmpty = false) ∧ (a.form v).2.isKey = true ∧ (a.form v).2.isEmpty = false := by
  cases hcanonical : a.canonical v with
  | error f => exact .inl (by rw [form_of_error hcanonical])
  | ok x =>
    rw [form_of_ok hcanonical]
    rcases canonical_cases a v with ⟨-, heq⟩ | ⟨s, rfl, heq⟩ | ⟨i, rfl, -, heq⟩ | ⟨-, heq⟩
    · obtain ⟨t, ht, rfl⟩ := Except.map_eq_ok_iff.mp (heq.symm.trans hcanonical)
      exact .inr ⟨Value.assigned_of_toDateTime ht, rfl, rfl⟩
    · obtain ⟨t, ht, rfl⟩ :=
        Except.map_eq_ok_iff.mp (Except.mapError_eq_ok_iff.mp (heq.symm.trans hcanonical))
      refine .inr ⟨⟨rfl, ?_⟩, rfl, decide_eq_false (canonicalText_ne_empty ht)⟩
      refine decide_eq_false ?_
      rintro rfl
      obtain ⟨e, he⟩ := canonicalText_empty a.caseExact
      exact nomatch he.symm.trans ht
    · rcases nearestDecimal_cases i with hi | ⟨d, hi⟩
      · exact nomatch (heq.symm.trans hcanonical).symm.trans hi
      · obtain rfl := Except.ok.inj ((heq.symm.trans hcanonical).symm.trans hi)
        exact .inr ⟨⟨rfl, rfl⟩, rfl, rfl⟩
    · obtain rfl := Except.ok.inj (heq.symm.trans hcanonical)
      exact .inl rfl

theorem form_isList (a : Attribute) (v : Value) : (a.form v).2.isList = v.isList := by
  rcases form_cases a v with heq | ⟨⟨hv, -⟩, hform, -⟩
  · rw [heq]
  · rw [(Value.isKey_iff.mp hv).1, (Value.isKey_iff.mp hform).1]

theorem form_isObject (a : Attribute) (v : Value) : (a.form v).2.isObject = v.isObject := by
  rcases form_cases a v with heq | ⟨⟨hv, -⟩, hform, -⟩
  · rw [heq]
  · rw [(Value.isKey_iff.mp hv).2, (Value.isKey_iff.mp hform).2]

theorem form_isEmpty (a : Attribute) (v : Value) : (a.form v).2.isEmpty = v.isEmpty := by
  rcases form_cases a v with heq | ⟨⟨-, hv⟩, -, hform⟩
  · rw [heq]
  · rw [hv, hform]

theorem Alike.isList (h : a.Alike v w) : v.isList = w.isList := by
  rw [← form_isList a v, Value.isList_of_same h.2, form_isList]

theorem Alike.isObject (h : a.Alike v w) : v.isObject = w.isObject := by
  rw [← form_isObject a v, Value.isObject_of_same h.2, form_isObject]

theorem Alike.isEmpty (h : a.Alike v w) (hw : w.isEmpty = true) : v.isEmpty = true := by
  rw [← form_isEmpty] at hw ⊢
  exact Value.isEmpty_of_same h.2 hw

/-! What a comparison takes for granted. -/

/-- An object has nothing assigned but what its sub-attributes or those further inside have. -/
def Transparent (a : Attribute) (v : Value) : Prop :=
  a.isComplex = true → v.isObject = true → (∀ sub ∈ a.subAttributes, (sub.valueIn v).isEmpty = true) →
    v.isEmpty = true

theorem transparent_missing (b : Attribute) : b.Transparent .missing :=
  fun _ h => nomatch h

theorem transparent_of_simple {a : Attribute} {v : Value} (h : a.isComplex = false) : a.Transparent v :=
  fun hcomplex => absurd (h.symm.trans hcomplex) Bool.false_ne_true

theorem inRange_of_type {a : Attribute} {v : Value} (h : a.type ≠ .decimal) : a.InRange v :=
  fun _ hdecimal => absurd hdecimal h

/-- What an object has for its sub-attributes is transparent at all depths; the object itself need not be. -/
def TransparentInside (a : Attribute) (v : Value) : Prop :=
  ∀ sub ∈ a.subAttributes, sub.Throughout Transparent (sub.valueIn v)

/-- Values that can be compared: keys are distinct, numbers lie on the number line and are in range, and objects
that stand for sub-attributes are transparent. -/
structure Comparable (a : Attribute) (v : Value) : Prop where
  keys : v.DistinctKeys
  line : v.OnLine
  range : a.Throughout InRange v
  inside : a.Throughout TransparentInside v

theorem Comparable.item {items : List Value} (h : a.Comparable (.list items)) (hv : v ∈ items) : a.Comparable v where
  keys := Value.distinctKeys_list.mp h.keys v hv
  line := Value.onLine_list.mp h.line v hv
  range := h.range.item hv
  inside := h.inside.item hv

theorem comparable_list_iff {items : List Value} :
    a.Comparable (.list items) ↔ ∀ item ∈ items, a.Comparable item := by
  refine ⟨fun h item => h.item, fun h => ⟨?_, ?_, ?_, ?_⟩⟩
  · exact Value.distinctKeys_list.mpr fun item hitem => (h item hitem).keys
  · exact Value.onLine_list.mpr fun item hitem => (h item hitem).line
  · exact throughout_list (fun _ _ hinteger => by cases hinteger) fun item hitem => (h item hitem).range
  · exact throughout_list (fun sub _ => throughout_missing transparent_missing sub)
      fun item hitem => (h item hitem).inside

theorem Comparable.valueIn (h : a.Comparable v) (hsub : sub ∈ a.subAttributes) :
    sub.Comparable (sub.valueIn v) ∧ sub.Throughout Transparent (sub.valueIn v) := by
  have htransparent := h.inside.self sub hsub
  refine ⟨⟨?_, ?_, h.range.valueIn inRange_missing hsub, ?_⟩, htransparent⟩
  · rcases valueIn_cases sub v with hmissing | ⟨fields, key, rfl, hmem, -⟩
    · rw [hmissing]
      trivial
    · exact (Value.distinctKeys_object.mp h.keys).2 _ hmem
  · rcases valueIn_cases sub v with hmissing | ⟨fields, key, rfl, hmem, -⟩
    · rw [hmissing]
      trivial
    · exact Value.onLine_object.mp h.line _ hmem
  · intro b w hwithin deeper hdeeper
    have hw : b.Throughout Transparent w := fun c x hx => htransparent c x (hwithin.trans hx)
    exact hw.valueIn transparent_missing hdeeper

/-- A comparison of an attribute's values is an equivalence, and equal values are both assigned or both not. -/
structure Coherent (a : Attribute) (equal : Value → Value → Except ValueFault Bool) : Prop where
  refl : ∀ v, a.Comparable v → equal v v = .ok true
  symm : ∀ v w, a.Comparable v → a.Comparable w → equal v w = .ok true → equal w v = .ok true
  trans : ∀ u v w, a.Comparable u → a.Comparable v → a.Comparable w → equal u v = .ok true →
    equal v w = .ok true → equal u w = .ok true
  isEmpty : ∀ v w, a.Comparable v → a.Comparable w → a.Throughout Transparent v → a.Throughout Transparent w →
    equal v w = .ok true → w.isEmpty = true → v.isEmpty = true

/-! Single values. -/

theorem equalSimple_eq_true_iff (hv : a.Comparable v) (hw : a.Comparable w) :
    a.equalSimple v w = .ok true ↔ a.Alike v w := by
  obtain ⟨b, hb⟩ := exists_equalSimple_eq_ok hv.range.self hw.range.self
  rw [← equalSimple_eq_ok hv.keys hw.keys hb, hb]
  exact ⟨Except.ok.inj, fun h => by rw [h]⟩

theorem coherent_equalSimple (a : Attribute) : a.Coherent a.equalSimple where
  refl := fun v hv => equalSimple_self hv.keys hv.line hv.range.self
  symm := fun v w hv hw h => by
    rw [equalSimple_eq_true_iff hv hw] at h
    rw [equalSimple_eq_true_iff hw hv]
    exact alike_symm hv.keys hw.keys h
  trans := fun u v w hu hv hw huv hvw => by
    rw [equalSimple_eq_true_iff hu hv] at huv
    rw [equalSimple_eq_true_iff hv hw] at hvw
    rw [equalSimple_eq_true_iff hu hw]
    exact alike_trans huv hvw
  isEmpty := fun v w hv hw _ _ h => Alike.isEmpty ((equalSimple_eq_true_iff hv hw).mp h)

/-! Single values, objects among them. -/

theorem equalItems_eq (a : Attribute) (v w : Value) : a.equalItems v w =
    if a.isComplex = true ∧ v.isObject = true ∧ w.isObject = true then equalSubAttributes a.subAttributes v w
    else a.equalSimple v w := by
  obtain ⟨name, type, _⟩ := a
  unfold equalItems
  split
  · exact (if_pos ⟨rfl, rfl, rfl⟩).symm
  · rename_i hother
    refine (if_neg ?_).symm
    rintro ⟨hcomplex, hv, hw⟩
    cases v with
    | object fs =>
      cases w with
      | object gs => exact hother fs gs (of_decide_eq_true hcomplex) rfl rfl
      | _ => cases hw
    | _ => cases hv

theorem isObject_of_equalItems (hv : a.Comparable v) (hw : a.Comparable w) (h : a.equalItems v w = .ok true) :
    v.isObject = w.isObject := by
  rw [equalItems_eq] at h
  split at h
  · rename_i hobjects
    rw [hobjects.2.1, hobjects.2.2]
  · exact Alike.isObject ((equalSimple_eq_true_iff hv hw).mp h)

theorem isList_of_equalItems (hv : a.Comparable v) (hw : a.Comparable w) (h : a.equalItems v w = .ok true) :
    v.isList = w.isList := by
  rw [equalItems_eq] at h
  split at h
  · rename_i hobjects
    rw [Value.isList_of_isObject hobjects.2.1, Value.isList_of_isObject hobjects.2.2]
  · exact Alike.isList ((equalSimple_eq_true_iff hv hw).mp h)

-- The values that two objects hold for a sub-attribute.
theorem sub_isEmpty (hsub : sub.Coherent sub.equal) (hmem : sub ∈ a.subAttributes) (hv : a.Comparable v)
    (hw : a.Comparable w) (h : ((sub.valueIn v).isEmpty = true ∧ (sub.valueIn w).isEmpty = true) ∨
      sub.equal (sub.valueIn v) (sub.valueIn w) = .ok true) (hempty : (sub.valueIn w).isEmpty = true) :
    (sub.valueIn v).isEmpty = true := by
  rcases h with ⟨hboth, -⟩ | hequal
  · exact hboth
  · obtain ⟨hsv, htv⟩ := hv.valueIn hmem
    obtain ⟨hsw, htw⟩ := hw.valueIn hmem
    exact hsub.isEmpty _ _ hsv hsw htv htw hequal hempty

theorem equalSubAttributes_symm (hsubs : ∀ sub ∈ a.subAttributes, sub.Coherent sub.equal) (hv : a.Comparable v)
    (hw : a.Comparable w) (h : equalSubAttributes a.subAttributes v w = .ok true) :
    equalSubAttributes a.subAttributes w v = .ok true := by
  rw [equalSubAttributes_eq_true_iff] at h ⊢
  intro sub hsub
  refine (h sub hsub).imp And.symm fun hequal => ?_
  exact (hsubs sub hsub).symm _ _ (hv.valueIn hsub).1 (hw.valueIn hsub).1 hequal

theorem equalSubAttributes_trans (hsubs : ∀ sub ∈ a.subAttributes, sub.Coherent sub.equal) (hu : a.Comparable u)
    (hv : a.Comparable v) (hw : a.Comparable w) (huv : equalSubAttributes a.subAttributes u v = .ok true)
    (hvw : equalSubAttributes a.subAttributes v w = .ok true) :
    equalSubAttributes a.subAttributes u w = .ok true := by
  have hwv := equalSubAttributes_symm hsubs hv hw hvw
  rw [equalSubAttributes_eq_true_iff] at huv hvw hwv ⊢
  intro sub hsub
  have hcoherent := hsubs sub hsub
  -- one of the three is unassigned only if all are
  cases hempty : (sub.valueIn v).isEmpty with
  | true =>
    exact .inl ⟨sub_isEmpty hcoherent hsub hu hv (huv sub hsub) hempty,
      sub_isEmpty hcoherent hsub hw hv (hwv sub hsub) hempty⟩
  | false =>
    have hassigned : ¬ (sub.valueIn v).isEmpty = true := ne_true_of_eq_false hempty
    have hfirst := (huv sub hsub).resolve_left fun h => hassigned h.2
    have hsecond := (hvw sub hsub).resolve_left fun h => hassigned h.1
    exact .inr (hcoherent.trans _ _ _ (hu.valueIn hsub).1 (hv.valueIn hsub).1 (hw.valueIn hsub).1 hfirst hsecond)

/-- Single values of a complex attribute are compared by an equivalence if those of its sub-attributes are. -/
theorem coherent_equalItems_of_complex (hcomplex : a.isComplex = true)
    (hsubs : ∀ sub ∈ a.subAttributes, sub.Coherent sub.equal) : a.Coherent a.equalItems where
  refl := fun v hv => by
    rw [equalItems_eq]
    split
    · refine equalSubAttributes_eq_true_iff.mpr fun sub hsub => .inr ?_
      exact (hsubs sub hsub).refl _ (hv.valueIn hsub).1
    · exact (coherent_equalSimple a).refl v hv
  symm := fun v w hv hw h => by
    have hobject := isObject_of_equalItems hv hw h
    rw [equalItems_eq] at h ⊢
    by_cases hboth : a.isComplex = true ∧ v.isObject = true ∧ w.isObject = true
    · rw [if_pos hboth] at h
      rw [if_pos ⟨hcomplex, hboth.2.2, hboth.2.1⟩]
      exact equalSubAttributes_symm hsubs hv hw h
    · rw [if_neg hboth] at h
      rw [if_neg fun hswapped => hboth ⟨hcomplex, hswapped.2.2, hswapped.2.1⟩]
      exact (coherent_equalSimple a).symm v w hv hw h
  trans := fun u v w hu hv hw huv hvw => by
    have hfirst := isObject_of_equalItems hu hv huv
    have hsecond := isObject_of_equalItems hv hw hvw
    rw [equalItems_eq] at huv hvw ⊢
    rw [hcomplex, hfirst, hsecond] at huv ⊢
    rw [hcomplex, hsecond] at hvw
    by_cases hobjects : w.isObject = true
    · rw [if_pos ⟨rfl, hobjects, hobjects⟩] at huv hvw ⊢
      exact equalSubAttributes_trans hsubs hu hv hw huv hvw
    · rw [if_neg fun h => hobjects h.2.1] at huv hvw ⊢
      exact (coherent_equalSimple a).trans u v w hu hv hw huv hvw
  isEmpty := fun v w hv hw htv htw h hempty => by
    rw [equalItems_eq] at h
    split at h
    · rename_i hobjects
      rw [equalSubAttributes_eq_true_iff] at h
      refine htv.self hcomplex hobjects.2.1 fun sub hsub => ?_
      exact sub_isEmpty (hsubs sub hsub) hsub hv hw (h sub hsub) (valueIn_isEmpty hempty sub)
    · exact (coherent_equalSimple a).isEmpty v w hv hw htv htw h hempty

/-! Lists. -/

/-- Items that can be compared and are equal. -/
def EqualItems (a : Attribute) (v w : Value) : Prop :=
  a.Comparable v ∧ a.Comparable w ∧ a.equalItems v w = .ok true

theorem EqualItems.symm (hitems : a.Coherent a.equalItems) (h : a.EqualItems v w) : a.EqualItems w v := by
  obtain ⟨hv, hw, hequal⟩ := h
  exact ⟨hw, hv, hitems.symm v w hv hw hequal⟩

theorem EqualItems.trans (hitems : a.Coherent a.equalItems) (huv : a.EqualItems u v) (hvw : a.EqualItems v w) :
    a.EqualItems u w := by
  obtain ⟨hu, hv, hfirst⟩ := huv
  obtain ⟨-, hw, hsecond⟩ := hvw
  exact ⟨hu, hw, hitems.trans u v w hu hv hw hfirst hsecond⟩

theorem equal_eq_equalItems (h : ¬ (a.multiValued = true ∧ v.isList = true ∧ w.isList = true)) :
    a.equal v w = a.equalItems v w := by
  unfold equal equalBy
  split
  · rename_i hmulti
    exact absurd ⟨hmulti, rfl, rfl⟩ h
  · rfl

/-- Two lists of a multi-valued attribute are equal if and only if their items pair off. -/
theorem equal_list_eq_true_iff (hitems : a.Coherent a.equalItems) (hmulti : a.multiValued = true)
    {vs ws : List Value} (hvs : a.Comparable (.list vs)) (hws : a.Comparable (.list ws)) :
    a.equal (.list vs) (.list ws) = .ok true ↔ Multiset.Rel a.EqualItems vs ws := by
  have hequal : ∀ x ∈ vs, ∀ y ∈ ws, ∀ b, a.equalItems x y = .ok b → (b = true ↔ a.EqualItems x y) := by
    intro x hx y hy b hb
    refine ⟨?_, fun h => Except.ok.inj (hb.symm.trans h.2.2)⟩
    rintro rfl
    exact ⟨hvs.item hx, hws.item hy, hb⟩
  rw [equal, hmulti, equalBy]
  by_cases hlength : vs.length = ws.length
  · rw [if_pos hlength]
    have hcompared : ∀ x ∈ vs, ∀ y ∈ ws, ∃ b, a.equalItems x y = .ok b :=
      fun x hx y hy => exists_equalItems_eq_ok a x y (hvs.range.item hx) (hws.range.item hy)
    obtain ⟨b, hb⟩ := exists_pairOff_eq_ok hcompared
    have hsymm : ∀ x y, a.EqualItems x y → a.EqualItems y x := fun _ _ => EqualItems.symm hitems
    have htrans : ∀ x y z, a.EqualItems x y → a.EqualItems y z → a.EqualItems x z :=
      fun _ _ _ => EqualItems.trans hitems
    rw [hb, ← pairOff_eq_ok hsymm htrans hlength hequal hb]
    exact ⟨Except.ok.inj, fun h => by rw [h]⟩
  · rw [if_neg hlength]
    refine ⟨fun hequal => (by cases hequal), fun hpaired => absurd (Multiset.card_eq_card_of_rel hpaired) ?_⟩
    rwa [Multiset.coe_card, Multiset.coe_card]

theorem isList_of_equal (hv : a.Comparable v) (hw : a.Comparable w) (h : a.equal v w = .ok true) :
    v.isList = w.isList := by
  by_cases hlists : a.multiValued = true ∧ v.isList = true ∧ w.isList = true
  · rw [hlists.2.1, hlists.2.2]
  · rw [equal_eq_equalItems hlists] at h
    exact isList_of_equalItems hv hw h

/-- All values are compared by an equivalence if single ones are. -/
theorem coherent_equal (hitems : a.Coherent a.equalItems) : a.Coherent a.equal where
  refl := fun v hv => by
    by_cases hlists : a.multiValued = true ∧ v.isList = true ∧ v.isList = true
    · obtain ⟨vs, rfl⟩ := Value.exists_of_isList hlists.2.1
      rw [equal_list_eq_true_iff hitems hlists.1 hv hv]
      refine Multiset.rel_refl_of_refl_on fun x hx => ?_
      have hx := hv.item (Multiset.mem_coe.mp hx)
      exact ⟨hx, hx, hitems.refl x hx⟩
    · rw [equal_eq_equalItems hlists]
      exact hitems.refl v hv
  symm := fun v w hv hw h => by
    by_cases hlists : a.multiValued = true ∧ v.isList = true ∧ w.isList = true
    · obtain ⟨vs, rfl⟩ := Value.exists_of_isList hlists.2.1
      obtain ⟨ws, rfl⟩ := Value.exists_of_isList hlists.2.2
      rw [equal_list_eq_true_iff hitems hlists.1 hv hw] at h
      rw [equal_list_eq_true_iff hitems hlists.1 hw hv]
      exact Multiset.rel_flip.mp (h.mono fun x _ y _ hxy => EqualItems.symm hitems hxy)
    · rw [equal_eq_equalItems hlists] at h
      rw [equal_eq_equalItems fun hswapped => hlists ⟨hswapped.1, hswapped.2.2, hswapped.2.1⟩]
      exact hitems.symm v w hv hw h
  trans := fun u v w hu hv hw huv hvw => by
    have hfirst := isList_of_equal hu hv huv
    have hsecond := isList_of_equal hv hw hvw
    by_cases hlists : a.multiValued = true ∧ v.isList = true
    · obtain ⟨us, rfl⟩ := Value.exists_of_isList (hfirst.trans hlists.2)
      obtain ⟨vs, rfl⟩ := Value.exists_of_isList hlists.2
      obtain ⟨ws, rfl⟩ := Value.exists_of_isList (hsecond.symm.trans hlists.2)
      rw [equal_list_eq_true_iff hitems hlists.1 hu hv] at huv
      rw [equal_list_eq_true_iff hitems hlists.1 hv hw] at hvw
      rw [equal_list_eq_true_iff hitems hlists.1 hu hw]
      have htrans : IsTrans Value a.EqualItems := ⟨fun _ _ _ => EqualItems.trans hitems⟩
      exact Multiset.Rel.trans a.EqualItems huv hvw
    · rw [equal_eq_equalItems fun h => hlists ⟨h.1, h.2.2⟩] at huv
      rw [equal_eq_equalItems fun h => hlists ⟨h.1, h.2.1⟩] at hvw
      rw [equal_eq_equalItems fun h => hlists ⟨h.1, hfirst.symm.trans h.2.1⟩]
      exact hitems.trans u v w hu hv hw huv hvw
  isEmpty := fun v w hv hw htv htw h hempty => by
    by_cases hlists : a.multiValued = true ∧ v.isList = true ∧ w.isList = true
    · obtain ⟨vs, rfl⟩ := Value.exists_of_isList hlists.2.1
      obtain ⟨ws, rfl⟩ := Value.exists_of_isList hlists.2.2
      rw [equal_list_eq_true_iff hitems hlists.1 hv hw] at h
      rw [Value.isEmpty_list_iff] at hempty ⊢
      intro x hx
      obtain ⟨y, hy, hxy⟩ := Multiset.exists_mem_of_rel_of_mem h (Multiset.mem_coe.mpr hx)
      have hy := Multiset.mem_coe.mp hy
      exact hitems.isEmpty x y hxy.1 hxy.2.1 (htv.item hx) (htw.item hy) hxy.2.2 (hempty y hy)
    · rw [equal_eq_equalItems hlists] at h
      exact hitems.isEmpty v w hv hw htv htw h hempty

/-- By induction on the levels of the definition, single values of every attribute are compared by an equivalence. -/
theorem coherent_equalItems (a : Attribute) : a.Coherent a.equalItems := by
  induction a using levelInduction with
  | level a ih =>
    cases hcomplex : a.isComplex with
    | true => exact coherent_equalItems_of_complex hcomplex fun sub hsub => coherent_equal (ih sub hsub)
    | false =>
      have heq : a.equalItems = a.equalSimple := funext fun v => funext (equalItems_eq_equalSimple hcomplex v)
      rw [heq]
      exact coherent_equalSimple a

/-- Comparing values of an attribute comes to an end and is an equivalence.  Two lists of a multi-valued attribute are
equal if and only if their items pair off one to one, and another order of either makes no difference. -/
theorem equal_isEquivalence (a : Attribute) :
    (∀ v w, a.Comparable v → a.Comparable w → ∃ b, a.equal v w = .ok b ∧ a.equal w v = .ok b) ∧
    (∀ v, a.Comparable v → a.equal v v = .ok true) ∧
    (∀ u v w, a.Comparable u → a.Comparable v → a.Comparable w → a.equal u v = .ok true →
      a.equal v w = .ok true → a.equal u w = .ok true) ∧
    (a.multiValued = true → ∀ vs ws, a.Comparable (.list vs) → a.Comparable (.list ws) →
      (a.equal (.list vs) (.list ws) = .ok true ↔
        Multiset.Rel (fun v w => a.equalItems v w = .ok true) (vs : Multiset Value) (ws : Multiset Value)) ∧
      ∀ vs' ws', vs'.Perm vs → ws'.Perm ws →
        a.equal (.list vs') (.list ws') = a.equal (.list vs) (.list ws)) := by
  have hitems := coherent_equalItems a
  have hequal := coherent_equal hitems
  refine ⟨fun v w hv hw => ?_, hequal.refl, hequal.trans, fun hmulti vs ws hvs hws => ⟨?_, ?_⟩⟩
  · obtain ⟨b, hb⟩ := exists_equal_eq_ok hv.range hw.range
    refine ⟨b, hb, ?_⟩
    rw [← hb]
    exact Except.eq_of_ok_true_iff (exists_equal_eq_ok hw.range hv.range) ⟨b, hb⟩
      ⟨hequal.symm w v hw hv, hequal.symm v w hv hw⟩
  · rw [equal_list_eq_true_iff hitems hmulti hvs hws]
    refine ⟨fun h => h.mono fun x _ y _ hxy => hxy.2.2, fun h => h.mono fun x hx y hy hxy => ?_⟩
    exact ⟨hvs.item (Multiset.mem_coe.mp hx), hws.item (Multiset.mem_coe.mp hy), hxy⟩
  · intro vs' ws' hperm hperm'
    have hvs' : a.Comparable (.list vs') :=
      comparable_list_iff.mpr fun x hx => hvs.item (hperm.mem_iff.mp hx)
    have hws' : a.Comparable (.list ws') :=
      comparable_list_iff.mpr fun x hx => hws.item (hperm'.mem_iff.mp hx)
    refine Except.eq_of_ok_true_iff (exists_equal_eq_ok hvs'.range hws'.range)
      (exists_equal_eq_ok hvs.range hws.range) ?_
    rw [equal_list_eq_true_iff hitems hmulti hvs' hws', equal_list_eq_true_iff hitems hmulti hvs hws,
      Multiset.coe_eq_coe.mpr hperm, Multiset.coe_eq_coe.mpr hperm']

def lidColor : Attribute := { name := ⟨"color", .refl true⟩, type := .string }

def chestLid : Attribute := { name := ⟨"lid", .refl true⟩, type := .complex, subAttributes := [lidColor] }

def chests : Attribute :=
  { name := ⟨"chests", .refl true⟩, type := .complex, multiValued := true, subAttributes := [chestLid] }

/-- A chest by what is said about its lid. -/
def chest (lid : Fields) : Value :=
  .object [("lid", .object lid)]

/-- A lid of a color. -/
def colored (color : String) : Fields :=
  [("color", .string color)]

theorem throughout_colored {P : Attribute → Value → Prop} {color : String}
    (hlid : P chestLid (.object (colored color))) (hcolor : P lidColor (.string color)) :
    chestLid.Throughout P (.object (colored color)) := by
  refine throughout_object hlid fun sub hsub field hfield _ => ?_
  obtain rfl := List.mem_singleton.mp hsub
  obtain rfl := List.mem_singleton.mp hfield
  exact throughout_key rfl hcolor

theorem throughout_chest {P : Attribute → Value → Prop} {color : String}
    (hchest : P chests (chest (colored color))) (hlid : P chestLid (.object (colored color)))
    (hcolor : P lidColor (.string color)) : chests.Throughout P (chest (colored color)) := by
  refine throughout_object hchest fun sub hsub field hfield _ => ?_
  obtain rfl := List.mem_singleton.mp hsub
  obtain rfl := List.mem_singleton.mp hfield
  exact throughout_colored hlid hcolor

theorem comparable_chest (color : String) : chests.Comparable (chest (colored color)) where
  keys := by simp [chest, colored, Value.DistinctKeys, Value.FieldsDistinct, Fields.keys]
  line := by simp [chest, colored, Value.OnLine, Value.FieldsOnLine]
  range := throughout_chest (inRange_of_type (by decide)) (inRange_of_type (by decide))
    (inRange_of_type (by decide))
  inside := by
    have htransparent : chestLid.Throughout Transparent (.object (colored color)) := by
      refine throughout_colored (fun _ _ h => ?_) (transparent_of_simple rfl)
      have hcolor : (Value.string color).isEmpty = true := h lidColor List.mem_cons_self
      simp [colored, Value.isEmpty_object_iff, hcolor]
    refine throughout_chest (fun sub hsub => ?_) (fun sub hsub => ?_) fun sub hsub => ?_
    · obtain rfl := List.mem_singleton.mp hsub
      exact htransparent
    · obtain rfl := List.mem_singleton.mp hsub
      exact throughout_key rfl (transparent_of_simple rfl)
    · exact absurd hsub List.not_mem_nil

theorem equal_isEquivalence_chests :
    Multiset.Rel (fun v w => chests.equalItems v w = .ok true)
        ([chest (colored "Red"), chest (colored "")] : List Value)
        ([chest (colored ""), chest (colored "red")] : List Value) ∧
      chests.equal (.list [chest (colored ""), chest (colored "Red")])
        (.list [chest (colored ""), chest (colored "red")]) = .ok true := by
  have hcomparable : ∀ colors : List String,
      chests.Comparable (.list (colors.map fun color => chest (colored color))) := by
    intro colors
    refine comparable_list_iff.mpr fun item hitem => ?_
    obtain ⟨color, -, rfl⟩ := List.mem_map.mp hitem
    exact comparable_chest color
  have hequal : (chests.equal (.list [chest (colored "Red"), chest (colored "")])
      (.list [chest (colored ""), chest (colored "red")])).toOption = some true := by
    decide
  have hequal := Except.eq_ok_of_toOption hequal
  obtain ⟨hpaired, hperm⟩ := (equal_isEquivalence chests).2.2.2 rfl _ _ (hcomparable ["Red", ""])
    (hcomparable ["", "red"])
  refine ⟨hpaired.mp hequal, ?_⟩
  rw [← hequal]
  exact hperm _ _ (List.Perm.swap _ _ _) (List.Perm.refl _)

/-- Nothing is assigned that the definition knows. -/
def keyedChest : Value :=
  chest [("key", .string "brass")]

def load : Attribute := { name := ⟨"load", .refl true⟩, type := .decimal }

/-- A lid with a key that is no color is equal to an empty lid, which is equal to none, but it is not equal to none
itself; so the order of chests decides which of them pair off.  An integer that no binary64 number is near cannot be
compared as a decimal. -/
theorem equal_not_equivalence :
    (chests.equal (.object []) (chest []) = .ok true ∧ chests.equal (chest []) keyedChest = .ok true ∧
        chests.equal (.object []) keyedChest = .ok false) ∧
      (chests.equal (.list [.object [], chest []]) (.list [.object [], keyedChest]) = .ok true ∧
        chests.equal (.list [chest [], .object []]) (.list [.object [], keyedChest]) = .ok false) ∧
      (load.equal (.integer (Int.pow 10 400)) (.integer 1)).isOk = false := by
  refine ⟨⟨rfl, rfl, rfl⟩, ⟨rfl, rfl⟩, ?_⟩
  decide +kernel

end Attribute

end Scim
