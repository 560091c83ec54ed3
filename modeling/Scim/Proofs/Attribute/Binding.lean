import Mathlib.Data.List.Forall2
import Scim.Proofs.Attribute.WellFormed

/-!
Attributes as those of a schema: what binding changes of a definition, at every level, and what it keeps.
-/

namespace Scim

theorem exists_of_mem_right {α β : Type} {R : α → β → Prop} {xs : List α} {ys : List β} (h : List.Forall₂ R xs ys) :
    ∀ y ∈ ys, ∃ x ∈ xs, R x y := by
  induction h with
  | nil => exact fun y hy => absurd hy List.not_mem_nil
  | cons first _ ih =>
    refine List.forall_mem_cons.mpr ⟨⟨_, List.mem_cons_self, first⟩, fun y hy => ?_⟩
    obtain ⟨x, hx, hxy⟩ := ih y hy
    exact ⟨x, List.mem_cons_of_mem _ hx, hxy⟩

theorem exists_of_mem_left {α β : Type} {R : α → β → Prop} {xs : List α} {ys : List β} (h : List.Forall₂ R xs ys) :
    ∀ x ∈ xs, ∃ y ∈ ys, R x y :=
  exists_of_mem_right (List.Forall₂.flip (R := flip R) h)

namespace Attribute

/-- `b` is `a` as an attribute of a schema: it and all attributes in it name the schema, and nothing else differs. -/
inductive BoundCopy (uri : SchemaUri) : Attribute → Attribute → Prop
  | intro (a b : Attribute) (same : b = { a with subAttributes := b.subAttributes, schema := some uri })
    (inside : List.Forall₂ (BoundCopy uri) a.subAttributes b.subAttributes) : BoundCopy uri a b

/-- No two sub-attributes of one attribute have one name, whatever the case, at any level. -/
inductive Distinct : Attribute → Prop
  | intro (a : Attribute) (names : (a.subAttributes.map (·.name.folded)).Nodup)
    (inside : ∀ sub ∈ a.subAttributes, Distinct sub) : Distinct a

section

variable {uri : SchemaUri} {a b : Attribute}

theorem BoundCopy.name (h : BoundCopy uri a b) : b.name = a.name := by
  cases h with
  | intro _ _ same _ => rw [same]

theorem BoundCopy.schema (h : BoundCopy uri a b) : b.schema = some uri := by
  cases h with
  | intro _ _ same _ => rw [same]

theorem BoundCopy.inside (h : BoundCopy uri a b) : List.Forall₂ (BoundCopy uri) a.subAttributes b.subAttributes := by
  cases h with
  | intro _ _ _ inside => exact inside

theorem bindAll_eq_map (attributes : List Attribute) : bindAll uri attributes = attributes.map (bind uri) := by
  induction attributes with
  | nil => rw [bindAll, List.map_nil]
  | cons a rest ih => rw [bindAll, ih, List.map_cons]

theorem boundCopy_bind (uri : SchemaUri) (a : Attribute) : BoundCopy uri a (bind uri a) := by
  induction a using levelInduction with
  | level a ih =>
    have hsubs : (bind uri a).subAttributes = a.subAttributes.map (bind uri) := by
      cases a
      rw [bind, bindAll_eq_map]
    refine ⟨_, _, ?_, ?_⟩
    · cases a
      rw [bind]
    · rw [hsubs, List.forall₂_map_right_iff, List.forall₂_same]
      exact ih

theorem names_eq_of_boundCopy {as bs : List Attribute} (h : List.Forall₂ (BoundCopy uri) as bs) :
    bs.map (·.name.folded) = as.map (·.name.folded) := by
  induction h with
  | nil => rfl
  | cons hab _ ih => rw [List.map_cons, List.map_cons, hab.name, ih]

theorem WellFormed.distinct (h : a.WellFormed) : a.Distinct := by
  induction a using levelInduction with
  | level a ih => exact ⟨a, h.names_nodup, fun sub hsub => ih sub hsub (h.inside sub hsub)⟩

/-- Binding keeps names, so distinct ones stay distinct. -/
theorem Distinct.of_boundCopy (h : a.Distinct) (hab : BoundCopy uri a b) : b.Distinct := by
  induction a using levelInduction generalizing b with
  | level a ih =>
    cases h with
    | intro _ names inside =>
      refine ⟨b, ?_, fun sub' hsub' => ?_⟩
      · rwa [names_eq_of_boundCopy hab.inside]
      · obtain ⟨sub, hsub, hcopy⟩ := exists_of_mem_right hab.inside sub' hsub'
        exact ih sub hsub (inside sub hsub) hcopy

end

end Attribute

end Scim
