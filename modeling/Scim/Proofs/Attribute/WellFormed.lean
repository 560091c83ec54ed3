import Mathlib.Data.List.Nodup
import Mathlib.Tactic.ByContra
import Scim.Attribute

/-!
Definitions of attributes that pass the check of definitions at every level.
-/

namespace Scim

/-- An attribute and those inside it pass the check of definitions: only complex ones have sub-attributes, and
these have different names. -/
inductive Attribute.WellFormed : Attribute → Prop
  | intro (a : Attribute) (checked : a.checkSubAttributes = .ok ())
    (inside : ∀ sub ∈ a.subAttributes, WellFormed sub) : WellFormed a

namespace Attribute

/-- Induction over the levels of a definition. -/
theorem levelInduction {motive : Attribute → Prop}
    (level : ∀ a : Attribute, (∀ sub ∈ a.subAttributes, motive sub) → motive a) (a : Attribute) : motive a :=
  level a fun sub _ => levelInduction level sub
termination_by sizeOf a
decreasing_by
  rename_i hsub
  have hinside := List.sizeOf_lt_of_mem hsub
  have hlevel : sizeOf a.subAttributes < sizeOf a := by
    cases a
    simp only [mk.sizeOf_spec]
    omega
  omega

variable {a : Attribute}

theorem WellFormed.inside (h : a.WellFormed) : ∀ sub ∈ a.subAttributes, sub.WellFormed := by
  cases h with
  | intro _ _ inside => exact inside

-- Without sub-attributes there is nothing to check.
theorem wellFormed_of_nil (h : a.subAttributes = []) : a.WellFormed := by
  refine ⟨a, ?_, fun sub hsub => absurd (h ▸ hsub) List.not_mem_nil⟩
  rw [checkSubAttributes, h]
  rfl

theorem nodup_of_firstRepeated? {seen : List AttrName} {attributes : List Attribute}
    (h : firstRepeated? seen attributes = none) :
    (attributes.map (·.name.folded)).Nodup ∧ ∀ s ∈ seen, ∀ a ∈ attributes, s.folded ≠ a.name.folded := by
  induction attributes generalizing seen with
  | nil => exact ⟨List.nodup_nil, fun _ _ a ha => absurd ha List.not_mem_nil⟩
  | cons a rest ih =>
    rw [firstRepeated?] at h
    split at h
    · exact nomatch h
    · rename_i hnew
      obtain ⟨hrest, hseen⟩ := ih h
      refine ⟨List.nodup_cons.mpr ⟨fun hmem => ?_, hrest⟩, fun s hs b hb heq => ?_⟩
      · obtain ⟨b, hb, heq⟩ := List.mem_map.mp hmem
        exact hseen a.name List.mem_cons_self b hb heq.symm
      · rcases List.mem_cons.mp hb with rfl | hb
        · exact hnew (List.any_eq_true.mpr ⟨s, hs, decide_eq_true heq⟩)
        · exact hseen s (List.mem_cons_of_mem _ hs) b hb heq

theorem WellFormed.names_nodup (h : a.WellFormed) : (a.subAttributes.map (·.name.folded)).Nodup := by
  cases h with
  | intro _ checked _ =>
    unfold checkSubAttributes at checked
    split at checked
    · exact nomatch checked
    · split at checked
      · exact nomatch checked
      · rename_i hnone
        exact (nodup_of_firstRepeated? hnone).1

theorem WellFormed.isComplex (h : a.WellFormed) {sub : Attribute} (hsub : sub ∈ a.subAttributes) :
    a.isComplex = true := by
  cases h with
  | intro _ checked _ =>
    unfold checkSubAttributes at checked
    split at checked
    · exact nomatch checked
    · rename_i hcomplex
      by_contra hne
      refine hcomplex ?_
      have hassigned : a.subAttributes.isEmpty = false := List.isEmpty_eq_false_iff.mpr (List.ne_nil_of_mem hsub)
      rw [hassigned]
      simpa [Attribute.isComplex] using hne

end Attribute

end Scim
