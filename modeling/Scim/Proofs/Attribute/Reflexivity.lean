import Scim.Proofs.Attribute.Faults
import Scim.Validation.Mutability

/-!
A value of an attribute is equal to itself, where all numbers lie on the number line and those that are compared as
decimals are in range; and a list is equal to one whose items are equal to its own, each in its place.
-/

namespace Scim

-- An integer in range is near a finite number.  The definition is opened as a function: opened at an integer, it would
-- be evaluated.
theorem Binary64.isFinite_of_ofInt? {i : Int} {d : Binary64} (h : Binary64.ofInt? i = some d) :
    d.isFinite = true := by
  obtain ⟨nearest?, hdef⟩ : ∃ f, ofInt? = f := ⟨_, rfl⟩
  rw [hdef] at h
  delta ofInt? at hdef
  subst hdef
  beta_reduce at h
  generalize ofUnits _ _ = nearest at h
  cases nearest with
  | finite negative units representable =>
    obtain rfl := Option.some.inj h
    rfl
  | infinity _ => exact nomatch h
  | nan => exact nomatch h

theorem Binary64.point?_of_isFinite {d : Binary64} (h : d.isFinite = true) : d.point?.isSome = true := by
  cases d with
  | finite negative units representable => rfl
  | _ => exact nomatch h

namespace Attribute

variable {a : Attribute} {v w x : Value}

theorem canonical_onLine (hv : v.OnLine) (h : a.canonical v = .ok x) : x.OnLine := by
  rcases canonical_cases a v with ⟨-, heq⟩ | ⟨s, -, heq⟩ | ⟨i, -, -, heq⟩ | ⟨-, heq⟩
  · obtain ⟨t, -, rfl⟩ := Except.map_eq_ok_iff.mp (heq.symm.trans h)
    trivial
  · obtain ⟨t, -, rfl⟩ := Except.map_eq_ok_iff.mp (Except.mapError_eq_ok_iff.mp (heq.symm.trans h))
    trivial
  · rw [heq, nearestDecimal] at h
    cases hnearest : Binary64.ofInt? i with
    | none =>
      rw [hnearest] at h
      cases h
    | some d =>
      rw [hnearest] at h
      obtain rfl := Except.ok.inj h
      exact Binary64.point?_of_isFinite (Binary64.isFinite_of_ofInt? hnearest)
  · obtain rfl := Except.ok.inj (heq.symm.trans h)
    exact hv

theorem equalSimple_self (hkeys : v.DistinctKeys) (hline : v.OnLine) (hrange : a.InRange v) :
    a.equalSimple v v = .ok true := by
  unfold equalSimple
  cases hcanonical : a.canonical v with
  | ok x =>
    simp only [Value.same_self (canonical_distinctKeys hkeys hcanonical) (canonical_onLine hline hcanonical)]
  | error f =>
    cases f with
    | overflow => exact absurd hcanonical (canonical_ne_overflow hrange)
    | _ => simp only [Value.same_self hkeys hline]

section Items

variable {equal : Value → Value → Except ValueFault Bool} {change : Value → Value}

-- Every item finds its partner in front.
theorem pairOff_map {items : List Value} (h : ∀ item ∈ items, equal (change item) item = .ok true) :
    pairOff equal (items.map change) items = .ok true := by
  induction items with
  | nil => rfl
  | cons first rest ih =>
    obtain ⟨hfirst, hrest⟩ := List.forall_mem_cons.mp h
    rw [List.map_cons, pairOff, takeEqual, hfirst]
    exact ih hrest

-- Only two lists are compared item by item.
theorem equalBy_eq {multiValued : Bool} (hw : ∀ ws, w ≠ .list ws) : equalBy multiValued equal v w = equal v w := by
  unfold equalBy
  split
  · exact absurd rfl (hw _)
  · rfl

theorem equalBy_mapItems {multiValued : Bool} (hself : equal (change v) v = .ok true)
    (hitems : ∀ items, v = .list items → ∀ item ∈ items, equal (change item) item = .ok true) :
    equalBy multiValued equal (mapItems multiValued change v) v = .ok true := by
  cases multiValued with
  | false => exact hself
  | true =>
    cases v with
    | list items =>
      rw [mapItems, equalBy, if_pos (List.length_map change)]
      exact pairOff_map (hitems items rfl)
    | _ =>
      rw [equalBy_eq fun _ h => Value.noConfusion h]
      exact hself

theorem mapItems_of_forall {multiValued : Bool} (hself : change v = v)
    (hitems : ∀ items, v = .list items → ∀ item ∈ items, change item = item) : mapItems multiValued change v = v := by
  cases multiValued with
  | false => exact hself
  | true =>
    cases v with
    | list items =>
      rw [mapItems, List.map_congr_left (hitems items rfl), List.map_id']
    | _ => exact hself

end Items

theorem equalItems_object (hcomplex : a.isComplex = true) (fs gs : Fields) :
    a.equalItems (.object fs) (.object gs) = equalSubAttributes a.subAttributes (.object fs) (.object gs) := by
  cases a
  obtain rfl := of_decide_eq_true hcomplex
  rw [equalItems]

theorem equalItems_of_not_object (hv : ∀ fields, v ≠ .object fields) (w : Value) :
    a.equalItems v w = a.equalSimple v w := by
  cases a
  unfold equalItems
  split
  · exact absurd rfl (hv _)
  · rfl

/-- Two objects are equal for some sub-attributes if and only if the values of each are unassigned or equal. -/
theorem equalSubAttributes_eq_true_iff {subs : List Attribute} : equalSubAttributes subs v w = .ok true ↔
    ∀ sub ∈ subs, ((sub.valueIn v).isEmpty = true ∧ (sub.valueIn w).isEmpty = true) ∨
      sub.equal (sub.valueIn v) (sub.valueIn w) = .ok true := by
  induction subs with
  | nil => simp [equalSubAttributes]
  | cons first rest ih =>
    rw [equalSubAttributes, List.forall_mem_cons, ← ih]
    split
    · rename_i hempty
      simp [Bool.and_eq_true_iff.mp hempty]
    · rename_i hassigned
      rw [Bool.and_eq_true_iff] at hassigned
      rw [Except.bind_eq_ok_iff]
      constructor
      · rintro ⟨equal, hequal, h⟩
        cases equal with
        | false => exact nomatch h
        | true => exact ⟨.inr hequal, h⟩
      · rintro ⟨hfirst, hrest⟩
        exact ⟨true, hfirst.resolve_left hassigned, hrest⟩

end Attribute

end Scim
