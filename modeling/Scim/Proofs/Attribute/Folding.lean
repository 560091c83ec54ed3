import Scim.Proofs.Attribute.Texts
import Scim.Proofs.Text.Refolding

/-!
Texts of attributes for which case does not count.  Their form is brought to Normalization Form C before it is
lower-cased, and a lower-case letter may compose with a mark where its capital does not.
-/

namespace Scim

section

variable {s t : String}

theorem folded_eq_ok_iff : canonicalText false s = .ok t ↔
    ∃ form, Text.enforceOpaque s.toList = .ok form ∧ String.ofList (Text.lowerChars form) = t := by
  unfold canonicalText
  cases Text.enforceOpaque s.toList with
  | error e => exact ⟨fun h => (nomatch h), fun ⟨_, h, _⟩ => (nomatch h)⟩
  | ok form =>
    refine ⟨fun h => ⟨form, rfl, Except.ok.inj h⟩, fun ⟨form', h, heq⟩ => ?_⟩
    obtain rfl := Except.ok.inj h
    exact congrArg Except.ok heq

theorem canonicalText_congr (h : Text.opaqueForm s.toList = Text.opaqueForm t.toList) (caseExact : Bool) :
    canonicalText caseExact s = canonicalText caseExact t := by
  rw [canonicalText, Text.enforceOpaque_congr h, canonicalText]

/-- A text in lower case is brought to the form that the folded text is brought to. -/
theorem folded_lower (h : canonicalText false s = .ok t) :
    canonicalText false (Text.lower s) = canonicalText false t := by
  obtain ⟨form, hform, rfl⟩ := folded_eq_ok_iff.mp h
  obtain ⟨rfl, -⟩ := Text.enforceOpaque_eq_ok_iff.mp hform
  refine canonicalText_congr ?_ false
  rw [Text.lower, String.toList_ofList, String.toList_ofList]
  exact Text.opaqueForm_lowerChars s.toList

/-- A folded text stays as it is just if it is in Normalization Form C. -/
theorem folded_again_iff (h : canonicalText false s = .ok t) :
    canonicalText false t = .ok t ↔ Text.nfc t.toList = t.toList := by
  obtain ⟨form, hform, rfl⟩ := folded_eq_ok_iff.mp h
  have hsettled := Text.isSettled_lowerFrom [] form
  rw [folded_eq_ok_iff, String.toList_ofList, ← Text.enforceOpaque_lowerChars_iff hform]
  constructor
  · rintro ⟨again, hagain, hchars⟩
    -- the second form has no capitals, so that it is the folded text itself
    obtain ⟨hnfc, -⟩ := Text.enforceOpaque_eq_ok_iff.mp hagain
    obtain ⟨rfl, -⟩ := Text.enforceOpaque_eq_ok_iff.mp hform
    have hsame : Text.lowerChars again = again := by
      rw [← hnfc, Text.opaqueForm_lowerChars_opaqueForm]
      exact Text.lowerChars_nfc hsettled
    rw [hsame, String.ofList_inj] at hchars
    rwa [← hchars] at hagain ⊢
  · intro hagain
    exact ⟨_, hagain, congrArg String.ofList (Text.lowerFrom_of_settled [] hsettled)⟩

/-- The folded form of a text is a canonical form just if it is in Normalization Form C: folded again, it stays as it
is, and the text and its lower-case form are equal values of every attribute for which case does not count. -/
theorem folded_canonical_iff (h : canonicalText false s = .ok t) :
    canonicalText false (Text.lower s) = canonicalText false t ∧
      (canonicalText false t = .ok t ↔ Text.nfc t.toList = t.toList) ∧
      ∀ a : Attribute, a.type = .string ∨ a.type = .reference → a.caseExact = false →
        (a.equal (.string s) (.string (Text.lower s)) = .ok true ↔ Text.nfc t.toList = t.toList) := by
  refine ⟨folded_lower h, folded_again_iff h, fun a htype hcase => ?_⟩
  rw [← folded_again_iff h, ← folded_lower h]
  have hs : canonicalText a.caseExact s = .ok t := hcase ▸ h
  cases hlower : canonicalText false (Text.lower s) with
  | ok u =>
    rw [Attribute.equal_of_form htype (hcase ▸ hlower), Attribute.hasForm_of_ok hs, Except.ok.injEq, Except.ok.injEq,
      decide_eq_true_eq]
    exact eq_comm
  | error e =>
    rw [Attribute.equal_of_formless htype (hcase ▸ hlower), Except.ok.injEq, Attribute.same_string_iff]
    refine ⟨fun hsame => ?_, fun h => (nomatch h)⟩
    -- a text without a form is not the one that has it
    rw [Value.string.inj hsame] at hlower
    exact nomatch hlower.symm.trans h

end

def brand : Attribute := { name := ⟨"brand", .refl true⟩, type := .string }

theorem folded_canonical_angstrom : canonicalText false "\u212bngstr\u00d6m" = .ok "\u00e5ngstr\u00f6m" ∧
    canonicalText false "\u00e5ngstr\u00f6m" = .ok "\u00e5ngstr\u00f6m" ∧
    brand.equal (.string "\u212bngstr\u00d6m") (.string (Text.lower "\u212bngstr\u00d6m")) = .ok true := by
  have hfolded : canonicalText false "\u212bngstr\u00d6m" = .ok "\u00e5ngstr\u00f6m" := by decide +kernel
  have hnfc : Text.nfc "\u00e5ngstr\u00f6m".toList = "\u00e5ngstr\u00f6m".toList := by decide
  obtain ⟨-, hagain, hequal⟩ := folded_canonical_iff hfolded
  exact ⟨hfolded, hagain.mpr hnfc, (hequal brand (.inl rfl) rfl).mpr hnfc⟩

/-- J has no composition with a caron, and j has one. -/
theorem folded_not_canonical_caron : canonicalText false "J\u030c" = .ok "j\u030c" ∧
    canonicalText false "j\u030c" = .ok "\u01f0" ∧ Text.lower "J\u030c" = "j\u030c" ∧
    brand.equal (.string "J\u030c") (.string "j\u030c") = .ok false := by
  have hcapital : canonicalText false "J\u030c" = .ok "j\u030c" := by decide +kernel
  have hsmall : canonicalText false "j\u030c" = .ok "\u01f0" := by decide +kernel
  refine ⟨hcapital, hsmall, by decide, ?_⟩
  rw [Attribute.equal_of_form (a := brand) (.inl rfl) hsmall, Attribute.hasForm_of_ok (a := brand) hcapital]
  exact congrArg Except.ok (by decide)

end Scim
