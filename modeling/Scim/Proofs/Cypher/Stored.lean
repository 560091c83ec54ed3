import Scim.Proofs.Cypher.Layout
import Scim.Proofs.Text.NormalForm
import Scim.Proofs.Validation.Conformance

/-!
Values that a node keeps: what is asked of the values in a record, so that comparisons on the node come out as
they do in the record, and what follows for the items of lists and for what objects hold.
-/

namespace Scim

namespace Attribute

open Cypher (isTextType)

/-- What is asked of each value in a record, so that it can be compared on a node: texts are printable ASCII, and
empty only for attributes that hold texts and that no comparison would let through (`sensitive` are those that
one would); integers for decimals are binary64 numbers; elements of lists are assigned; and objects hold
sub-attributes only. -/
structure Storable (sensitive : List Attribute) (a : Attribute) (v : Value) : Prop where
  printable : ∀ s, v = .string s → ∀ c ∈ s.toList, Text.IsPrintable c
  blank : v = .string "" → a.isComplex = false → isTextType a.type = true ∧ a ∉ sensitive
  exact : a.type = .decimal → ∀ i, v = .integer i →
    ∃ d, Binary64.ofInt? i = some d ∧ d.point? = some (.ofInt i)
  elements : a.isComplex = true → a.multiValued = true → ∀ items, v = .list items →
    ∀ item ∈ items, item.isEmpty = false
  known : a.isComplex = true → ∀ fields, v = .object fields →
    ∀ field ∈ fields, ∃ sub ∈ a.subAttributes, sub.name.isSpelled field.1 = true

/-- A single value of the attribute's type, which can be stored. -/
structure RegularItem (sensitive : List Attribute) (a : Attribute) (v : Value) : Prop where
  typed : ∃ path, a.typeIssuesOfItem path v = .ok []
  distinct : v.DistinctFolded
  storable : a.Throughout (Storable sensitive) v

/-- A value of the attribute's type, which can be stored. -/
structure Regular (sensitive : List Attribute) (a : Attribute) (v : Value) : Prop where
  typed : ∃ path, a.typeIssues path v = .ok []
  distinct : v.DistinctFolded
  storable : a.Throughout (Storable sensitive) v

variable {sensitive : List Attribute} {a : Attribute} {v : Value}

theorem storable_missing (b : Attribute) : b.Storable sensitive .missing :=
  ⟨nofun, nofun, fun _ => nofun, fun _ _ => nofun, fun _ => nofun⟩

theorem RegularItem.of_single (h : a.Regular sensitive v) (hsingle : a.multiValued = false) :
    a.RegularItem sensitive v := by
  refine ⟨?_, h.distinct, h.storable⟩
  obtain ⟨path, htyped⟩ := h.typed
  cases hassigned : v.isEmpty with
  | true => exact ⟨path, by rw [typeIssuesOfItem_eq, hassigned, if_pos rfl]⟩
  | false =>
    have hitems := (items_of_typeIssues htyped hassigned).2
    rw [itemsAt_single hsingle] at hitems
    exact ⟨path, hitems _ (List.mem_singleton_self _)⟩

theorem Regular.items {items : List Value} (h : a.Regular sensitive (.list items)) (hmany : a.multiValued = true) :
    ∀ item ∈ items, a.RegularItem sensitive item := by
  intro item hitem
  refine ⟨?_, Value.distinctFolded_list.mp h.distinct item hitem, h.storable.item hitem⟩
  obtain ⟨path, htyped⟩ := h.typed
  cases hassigned : (Value.list items).isEmpty with
  | true => exact ⟨path, by rw [typeIssuesOfItem_eq, Value.isEmpty_of_mem_list hassigned item hitem, if_pos rfl]⟩
  | false =>
    have hcovered : ∀ x ∈ items, ∃ itemPath, (itemPath, x) ∈ a.itemsAt path (.list items) :=
      (mem_itemsAt_list hmany).2
    obtain ⟨itemPath, hmem⟩ := hcovered item hitem
    exact ⟨itemPath, (items_of_typeIssues htyped hassigned).2 _ hmem⟩

-- Unless it is a list, a value of an attribute with many values is unassigned.
theorem Regular.list_or_empty (h : a.Regular sensitive v) (hmany : a.multiValued = true) :
    (∃ items, v = .list items) ∨ v.isEmpty = true := by
  obtain ⟨path, htyped⟩ := h.typed
  cases hassigned : v.isEmpty with
  | true => exact .inr rfl
  | false => exact .inl (exists_items_of_cardinality hmany (items_of_typeIssues htyped hassigned).1)

theorem RegularItem.accepts (h : a.RegularItem sensitive v) (hassigned : v.isEmpty = false) :
    a.accepts v = .ok true := by
  obtain ⟨path, htyped⟩ := h.typed
  exact (parts_of_typeIssuesOfItem htyped hassigned).1

theorem valueIn_eq_get (a : Attribute) (hdistinct : v.DistinctFolded) : a.valueIn v = v.get a.name.text := by
  cases v with
  | object fields =>
    have hkeys := (Value.distinctFolded_object.mp hdistinct).1
    rw [valueIn_object, Value.get_object]
    rcases Fields.valueLike_cases a.name.lower_folded fields with hmissing | ⟨key, hmem, hlower⟩
    · rcases Fields.valueLike_cases (rfl : Text.lower a.name.text = a.name.folded) fields with
        hmissing' | ⟨key, hmem, hlower⟩
      · exact hmissing.trans hmissing'.symm
      · rw [Fields.valueLike_of_mem a.name.lower_folded hkeys hmem hlower]
    · exact (Fields.valueLike_of_mem rfl hkeys hmem hlower).symm
  | _ => rfl

/-- What a regular object holds for the sub-attributes is regular. -/
theorem RegularItem.sub (h : a.RegularItem sensitive v) (hcomplex : a.isComplex = true) {sub : Attribute}
    (hsub : sub ∈ a.subAttributes) : sub.Regular sensitive (v.get sub.name.text) := by
  refine ⟨?_, Value.get_distinctFolded h.distinct _, ?_⟩
  · obtain ⟨path, htyped⟩ := h.typed
    cases hassigned : v.isEmpty with
    | true =>
      have hempty : (v.get sub.name.text).isEmpty = true := by
        rcases Value.get_cases sub.name.text v with hmissing | ⟨fields, key, rfl, hmem, -⟩
        · rw [hmissing]
          rfl
        · exact Value.isEmpty_of_mem_object hassigned _ hmem
      exact ⟨path, by rw [typeIssues, hempty, if_pos rfl]⟩
    | false =>
      have hparts := (parts_of_typeIssuesOfItem htyped hassigned).2 hcomplex sub hsub
      rw [valueIn_eq_get sub h.distinct] at hparts
      exact ⟨_, hparts⟩
  · rw [← valueIn_eq_get sub h.distinct]
    exact h.storable.valueIn storable_missing hsub

/-- A regular object is unassigned if all its sub-attributes are. -/
theorem RegularItem.isEmpty_iff (h : a.RegularItem sensitive v) (hcomplex : a.isComplex = true) :
    v.isEmpty = true ↔ ∀ sub ∈ a.subAttributes, (v.get sub.name.text).isEmpty = true := by
  constructor
  · intro hempty sub _
    rcases Value.get_cases sub.name.text v with hmissing | ⟨fields, key, rfl, hmem, -⟩
    · rw [hmissing]
      rfl
    · exact Value.isEmpty_of_mem_object hempty _ hmem
  · intro hsubs
    by_contra hassigned
    have haccepts := h.accepts (Bool.eq_false_iff.mpr hassigned)
    cases v with
    | object fields =>
      -- all that the object holds is read for some sub-attribute
      refine hassigned (Value.isEmpty_object_iff.mpr fun field hfield => ?_)
      obtain ⟨sub, hsub, hspelled⟩ := h.storable.self.known hcomplex fields rfl field hfield
      have hvalue := hsubs sub hsub
      have hkeys := (Value.distinctFolded_object.mp h.distinct).1
      have hread : (Value.object fields).get sub.name.text = field.2 :=
        Fields.valueLike_of_mem rfl hkeys hfield (of_decide_eq_true hspelled).symm
      rwa [hread] at hvalue
    | _ =>
      unfold Attribute.accepts at haccepts
      rw [of_decide_eq_true hcomplex] at haccepts
      cases haccepts

end Attribute
end Scim
