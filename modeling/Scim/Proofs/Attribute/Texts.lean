import Scim.Proofs.Attribute.Reflexivity

/-!
Equality with a text: a text that has an opaque form equals the texts of this form, and one that has none equals itself
only.
-/

namespace Scim

theorem Value.text_or_not (x : Value) : (∃ s, x = .string s) ∨ ∀ s, x ≠ .string s := by
  cases x with
  | string s => exact .inl ⟨s, rfl⟩
  | _ => exact .inr nofun

namespace Attribute

variable {a : Attribute} {text form : String} {x : Value}

/-- Whether a value is a text of a form, as the attribute compares texts. -/
def hasForm (a : Attribute) (form : String) : Value → Bool
  | .string s =>
    match canonicalText a.caseExact s with
    | .ok t => t = form
    | .error _ => false
  | _ => false

theorem hasForm_of_ok {s t : String} (h : canonicalText a.caseExact s = .ok t) :
    a.hasForm form (.string s) = decide (t = form) := by
  simp only [hasForm, h]

theorem hasForm_of_error {s : String} {e : Text.DisallowedText} (h : canonicalText a.caseExact s = .error e) :
    a.hasForm form (.string s) = false := by
  simp only [hasForm, h]

theorem hasForm_of_not_text (hx : ∀ s, x ≠ .string s) : a.hasForm form x = false := by
  cases x with
  | string s => exact absurd rfl (hx s)
  | _ => rfl

theorem isComplex_of_text (htype : a.type = .string ∨ a.type = .reference) : a.isComplex = false := by
  unfold isComplex
  rcases htype with htype | htype <;> rw [htype] <;> rfl

theorem canonical_of_form (htype : a.type = .string ∨ a.type = .reference)
    (hform : canonicalText a.caseExact text = .ok form) : a.canonical (.string text) = .ok (.string form) := by
  rw [canonical_string htype, hform]
  rfl

theorem canonical_of_formless (htype : a.type = .string ∨ a.type = .reference) {e : Text.DisallowedText}
    (hform : canonicalText a.caseExact text = .error e) : a.canonical (.string text) = .error (.disallowed e) := by
  rw [canonical_string htype, hform]
  rfl

theorem canonical_of_not_text (htype : a.type = .string ∨ a.type = .reference) (hx : ∀ s, x ≠ .string s) :
    a.canonical x = .ok x := by
  unfold canonical
  cases x with
  | string s => exact absurd rfl (hx s)
  | _ => rcases htype with htype | htype <;> simp only [htype]

theorem same_text_of_not_text (hx : ∀ s, x ≠ .string s) (t : String) : x.same (.string t) = false := by
  refine Bool.eq_false_iff.mpr fun hsame => ?_
  exact hx t (eq_of_same_string hsame)

theorem equal_text (htype : a.type = .string ∨ a.type = .reference) (x : Value) (text : String) :
    a.equal x (.string text) = a.equalSimple x (.string text) := by
  have hlist : ∀ ws, Value.string text ≠ .list ws := nofun
  rw [equal, equalBy_eq hlist, equalItems_eq_equalSimple (isComplex_of_text htype)]

/-- A text that has a form equals the texts of this form. -/
theorem equal_of_form (htype : a.type = .string ∨ a.type = .reference)
    (hform : canonicalText a.caseExact text = .ok form) (x : Value) :
    a.equal x (.string text) = .ok (a.hasForm form x) := by
  have htext := canonical_of_form htype hform
  rw [equal_text htype]
  unfold equalSimple
  rcases x.text_or_not with ⟨s, rfl⟩ | hx
  · rw [htext, canonical_string htype]
    cases hs : canonicalText a.caseExact s with
    | ok t =>
      rw [hasForm_of_ok hs]
      rfl
    | error e =>
      rw [hasForm_of_error hs]
      -- a text without a form is not the one that has it
      have hne : s ≠ text := by
        rintro rfl
        cases hs.symm.trans hform
      exact congrArg Except.ok (decide_eq_false hne)
  · rw [htext, canonical_of_not_text htype hx, hasForm_of_not_text hx]
    exact congrArg Except.ok (same_text_of_not_text hx form)

/-- A text that has no form equals itself only. -/
theorem equal_of_formless (htype : a.type = .string ∨ a.type = .reference) {e : Text.DisallowedText}
    (hform : canonicalText a.caseExact text = .error e) (x : Value) :
    a.equal x (.string text) = .ok (x.same (.string text)) := by
  have htext := canonical_of_formless htype hform
  rw [equal_text htype]
  unfold equalSimple
  rcases x.text_or_not with ⟨s, rfl⟩ | hx
  · rw [htext, canonical_string htype]
    cases canonicalText a.caseExact s <;> rfl
  · rw [htext, canonical_of_not_text htype hx]

end Attribute

end Scim
