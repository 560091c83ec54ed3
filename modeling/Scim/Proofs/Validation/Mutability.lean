import Scim.Proofs.Attribute.Faults
import Scim.Proofs.Validation.Trimming

/-!
What is left of a resource when read-only values are dropped is a part of it; and when the check of immutable
attributes comes to an end.
-/

namespace Scim

open Value

namespace Attribute

theorem dropReadOnlyParts_cons (a : Attribute) (rest : List Attribute) (fields : Fields) :
    dropReadOnlyParts (a :: rest) fields = dropReadOnlyParts rest (dropReadOnlyParts [a] fields) := by
  simp only [dropReadOnlyParts]

/-- What is left of an object is a part of it. -/
theorem dropReadOnlyParts_part (subs : List Attribute) (fields : Fields) :
    PartFields (dropReadOnlyParts subs fields) fields := by
  -- whatever the keys name
  have hdescends : Naming.Descends fun _ _ => True := ⟨fun _ _ _ _ => trivial, fun _ _ _ _ _ => trivial⟩
  exact (dropReadOnlyParts_trimmed hdescends subs fields [] fun _ _ => trivial).part

theorem exists_changes_eq_ok {a : Attribute} {current v : Value} (hcurrent : a.Throughout InRange current)
    (hv : a.Throughout InRange v) : ∃ b, a.changes current v = .ok b := by
  unfold changes
  split
  · exact ⟨false, rfl⟩
  · split
    · exact ⟨true, rfl⟩
    · exact Except.exists_map_eq_ok (exists_equal_eq_ok hv hcurrent)

/-- What leaves an attribute unchanged: no value, any value where there was none, and an equal one. -/
theorem changes_eq_false_iff {a : Attribute} {current v : Value} : a.changes current v = .ok false ↔
    v = .missing ∨ current.isEmpty = true ∨ (v.isEmpty = false ∧ a.equal v current = .ok true) := by
  have hmissing : v.isMissing = true ↔ v = .missing := by cases v <;> simp [isMissing]
  have hnot : (a.equal v current).map (!·) = .ok false ↔ a.equal v current = .ok true := by
    rw [Except.map_eq_ok_iff]
    simp
  unfold changes
  split
  · rename_i hkept
    rw [Bool.or_eq_true, hmissing] at hkept
    exact iff_of_true rfl (hkept.imp_right .inl)
  · rename_i hkept
    rw [Bool.or_eq_true, hmissing, not_or] at hkept
    split
    · rename_i hempty
      simp [hkept.1, hkept.2, hempty]
    · rename_i hassigned
      simp [hkept.1, hkept.2, hassigned, hnot]

end Attribute

namespace ResourceType

theorem mutabilityIssues_eq_nil_iff {rt : ResourceType} {s : Submission} {data : Fields} {a : Attribute} :
    rt.mutabilityIssues s data a = .ok [] ↔ ∀ existing, a.mutability = .immutable → s = .patch existing →
      a.changes (rt.valueOf a existing) (rt.valueOf a (.object data)) = .ok false := by
  unfold mutabilityIssues
  split
  · rename_i existing himmutable
    constructor
    · intro h other _ hsame
      obtain rfl := Submission.patch.inj hsame
      obtain ⟨changed, hchanged, h⟩ := Except.bind_eq_ok_iff.mp h
      cases changed with
      | true => exact nomatch h
      | false => exact hchanged
    · intro h
      rw [h existing himmutable rfl]
      rfl
  · rename_i hother
    exact ⟨fun _ existing himmutable hsame => absurd hsame (hother existing himmutable), fun _ => rfl⟩

theorem changeHolder_part {change : Fields → Fields} (hchange : ∀ fields, PartFields (change fields) fields)
    (rt : ResourceType) (a : Attribute) (data : Fields) : PartFields (rt.changeHolder a change data) data := by
  rcases changeHolder_cases rt a change data with heq | ⟨-, heq⟩ | ⟨uri, key, container, -, -, hlookup, heq⟩
  · rw [heq]
    exact partFields_same data
  · rw [heq]
    exact hchange data
  · rw [heq]
    exact partFields_insert hlookup (.object (hchange container))

theorem dropReadOnly_part (rt : ResourceType) (a : Attribute) (data : Fields) :
    PartFields (rt.dropReadOnly a data) data :=
  changeHolder_part (Attribute.dropReadOnlyParts_part [a]) rt a data

/-- A patch compares integers in range only, where it compares values for immutable attributes: those in the
payload with those in the existing resource. -/
def ChangesInRange (rt : ResourceType) (s : Submission) (payload : Value) : Prop :=
  ∀ existing, s = .patch existing → ∀ a ∈ rt.attributes, a.mutability = .immutable →
    ∀ v, rt.Stands a payload v ∨ rt.Stands a existing v → a.Throughout Attribute.InRange v

theorem exists_mutabilityIssues_eq_ok {rt : ResourceType} {s : Submission} {payload data : Fields}
    (h : rt.ChangesInRange s (.object payload)) (hdata : PartFields data payload) {a : Attribute}
    (ha : a ∈ rt.attributes) : ∃ issues, rt.mutabilityIssues s data a = .ok issues := by
  unfold mutabilityIssues
  split
  · rename_i existing himmutable
    have hstands := h existing rfl a ha himmutable
    refine Except.exists_bind_eq_ok (Attribute.exists_changes_eq_ok ?_ ?_) fun changed _ => ?_
    · exact throughout_valueOf Attribute.inRange_hereditary Attribute.inRange_missing
        (fun v hv => hstands v (.inr hv)) (.same existing)
    · exact throughout_valueOf Attribute.inRange_hereditary Attribute.inRange_missing
        (fun v hv => hstands v (.inl hv)) (.object hdata)
    · split
      · exact ⟨_, rfl⟩
      · exact ⟨[], rfl⟩
  · exact ⟨[], rfl⟩

end ResourceType

end Scim
