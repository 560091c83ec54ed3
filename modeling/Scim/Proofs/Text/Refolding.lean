import Scim.Proofs.Text.Admission

/-!
The opaque form of texts in lower case.  Separators have no case, so that they are replaced before lower-casing or
after it, and characters without another lower-case form are taken apart and composed to such characters.
-/

namespace Scim.Text

/-! What Normalization Form C keeps. -/

section

variable {P : Char → Prop} {starter : Char} {marks cs : List Char}

theorem forall_composeAfter (hpair : ∀ {a b c}, P a → P b → composePair a b = some c → P c) (hstarter : P starter)
    (hmarks : ∀ m ∈ marks, P m) (hcs : ∀ c ∈ cs, P c) : ∀ c ∈ composeAfter starter marks cs, P c := by
  have hfront : ∀ {starter : Char} {marks : List Char}, P starter → (∀ m ∈ marks, P m) →
      ∀ c ∈ starter :: marks.reverse, P c := fun hstarter hmarks =>
    List.forall_mem_cons.mpr ⟨hstarter, fun c hc => hmarks c (List.mem_reverse.mp hc)⟩
  induction cs generalizing starter marks with
  | nil => exact hfront hstarter hmarks
  | cons d rest ih =>
    obtain ⟨hd, hrest⟩ := List.forall_mem_cons.mp hcs
    rw [composeAfter]
    split
    · next composed hcomposed =>
      split at hcomposed
      · cases hcomposed
      · exact ih (hpair hstarter hd hcomposed) hmarks hrest
    · split
      · exact List.forall_mem_append.mpr ⟨hfront hstarter hmarks, ih hd (fun m hm => absurd hm List.not_mem_nil) hrest⟩
      · exact ih hstarter (List.forall_mem_cons.mpr ⟨hd, hmarks⟩) hrest

theorem forall_compose (hpair : ∀ {a b c}, P a → P b → composePair a b = some c → P c) (h : ∀ c ∈ cs, P c) :
    ∀ c ∈ compose cs, P c := by
  induction cs with
  | nil => exact h
  | cons c rest ih =>
    obtain ⟨hc, hrest⟩ := List.forall_mem_cons.mp h
    rw [compose]
    split
    · exact forall_composeAfter hpair hc (fun m hm => absurd hm List.not_mem_nil) hrest
    · exact List.forall_mem_cons.mpr ⟨hc, ih hrest⟩

/-- What holds of all characters still does in Normalization Form C, if canonical parts and compositions inherit it. -/
theorem forall_nfc (hpart : ∀ {c d}, P c → d ∈ decompose c → P d)
    (hpair : ∀ {a b c}, P a → P b → composePair a b = some c → P c) (h : ∀ c ∈ cs, P c) : ∀ c ∈ nfc cs, P c := by
  refine forall_compose hpair fun d hd => ?_
  obtain ⟨c, hc, hd⟩ := List.mem_flatMap.mp (mem_orderMarks.mp hd)
  exact hpart (h c hc) hd

end

/-! Characters without another form. -/

section

variable {a b c d : Char} {cs : List Char}

theorem isSettled_of_mem_decompose (h : isSettled c = true) (hd : d ∈ decompose c) : isSettled d = true := by
  have hform : lowerFrom [] [c] = [c] := lowerFrom_of_settled [] (List.forall_mem_singleton.mpr h)
  have hparts := flatMap_decompose_lowerFrom (rfl : ([] : List Char).findSome? caseEffect = _) [c]
  rw [hform, List.flatMap_singleton] at hparts
  exact isSettled_lowerFrom [] _ d (hparts ▸ hd)

theorem Code.settles_compositions :
    (compositions.all fun entry => !(settles entry.1 && settles entry.2.1) || settles entry.2.2) = true := by
  decide +kernel

theorem Code.settles_hangul {n : Nat} (h : isHangulSyllable n = true) : settles n = true := by
  obtain ⟨hlow, hhigh⟩ := isHangulSyllable_iff.mp h
  rw [settles, form_hangul h, Bool.and_eq_true, Bool.and_eq_true, Bool.not_eq_true', Bool.not_eq_true',
    ← Bool.not_eq_true, ← Bool.not_eq_true, Nat.beq_eq, Nat.beq_eq, Nat.beq_eq]
  exact ⟨⟨by omega, by omega⟩, rfl⟩

theorem isSettled_composePair (ha : isSettled a = true) (hb : isSettled b = true) (h : composePair a b = some c) :
    isSettled c = true := by
  rw [isSettled_eq] at ha hb ⊢
  rcases composePair_cases h with hhangul | hmem
  · exact Code.settles_hangul (isHangulSyllable_composeHangul hhangul)
  · have hall := List.all_eq_true.mp Code.settles_compositions _ hmem
    rwa [ha, hb, Bool.and_self, Bool.not_true, Bool.false_or] at hall

/-- The Normalization Form C of a lower-case form is a lower-case form. -/
theorem lowerChars_nfc (h : ∀ c ∈ cs, isSettled c = true) : lowerChars (nfc cs) = nfc cs :=
  lowerFrom_of_settled [] (forall_nfc isSettled_of_mem_decompose isSettled_composePair h)

end

/-! Separators. -/

/-- U+0020 stands for all separators. -/
def asSpace (c : Char) : Char :=
  if isSpaceSeparator c then ' ' else c

def spaced (cs : List Char) : List Char :=
  cs.map asSpace

namespace Code

/-- A separator other than U+0020. -/
noncomputable def isOtherSpace (n : Nat) : Bool :=
  has n spaceRanges && !Nat.beq n 0x20

/-- Separators have no other forms and no case. -/
noncomputable def settlesSpaces (range : Nat × Nat) : Bool :=
  (List.range (range.2 + 1 - range.1)).all fun k =>
    settles (range.1 + k) && decide (effect (range.1 + k) = some false)

/-- Only separators have separators for parts, and none is composed of other characters or the form of a letter. -/
structure SpacesFit : Prop where
  ofParts : (decompositions.all fun entry => entry.2.all fun p => !isOtherSpace p) = true
  ofSingles : (singletons.all fun entry => isOtherSpace entry.1 || !isOtherSpace entry.2) = true
  ofCompositions : (compositions.all fun entry => !isOtherSpace entry.2.2) = true
  ofLetters : (letterForms.all fun entry => !has entry.2 spaceRanges) = true
  settled : (spaceRanges.all settlesSpaces) = true
  rows : fits spaceRanges = true

theorem spacesFit : SpacesFit where
  ofParts := by decide +kernel
  ofSingles := by decide +kernel
  ofCompositions := by decide +kernel
  ofLetters := by decide +kernel
  settled := by decide +kernel
  rows := by decide +kernel

theorem has_spaceRanges (n : Nat) : has n spaceRanges = inRanges n spaceRanges :=
  has_eq_inRanges spacesFit.rows

theorem isOtherSpace_eq_false {n : Nat} (h : 0x1100 ≤ n ∧ n < 0x1200 ∨ 0x3000 < n) : isOtherSpace n = false := by
  have hout : inRanges n spaceRanges = false := by
    refine Bool.eq_false_iff.mpr fun hin => ?_
    simp only [spaceRanges, inRanges, Bool.and_eq_true, Bool.or_eq_true, decide_eq_true_eq, Bool.false_eq_true,
      or_false] at hin
    omega
  rw [isOtherSpace, has_spaceRanges, hout, Bool.false_and]

variable {n p : Nat}

theorem isOtherSpace_of_mem_parts (h : isOtherSpace n = false) (hp : p ∈ parts n) : isOtherSpace p = false := by
  rcases parts_cases n with hself | ⟨hhangul, heq⟩ | hmem | ⟨m, hmem, heq⟩
  · rw [hself] at hp
    rwa [List.mem_singleton.mp hp]
  · exact isOtherSpace_eq_false (.inl (isScalar_hangulParts hhangul p (heq ▸ hp)))
  · have hall := List.all_eq_true.mp (List.all_eq_true.mp spacesFit.ofParts _ hmem) p hp
    rwa [Bool.not_eq_true'] at hall
  · rw [heq] at hp
    obtain rfl := List.mem_singleton.mp hp
    have hall := List.all_eq_true.mp spacesFit.ofSingles _ hmem
    rwa [h, Bool.false_or, Bool.not_eq_true'] at hall

theorem exists_of_inRanges {ranges : List (Nat × Nat)} (h : inRanges n ranges = true) :
    ∃ range ∈ ranges, range.1 ≤ n ∧ n ≤ range.2 := by
  induction ranges with
  | nil => exact nomatch h
  | cons range rest ih =>
    rw [inRanges, Bool.and_eq_true, Bool.or_eq_true, decide_eq_true_eq, decide_eq_true_eq] at h
    obtain ⟨hfirst, hlast | hrest⟩ := h
    · exact ⟨range, List.mem_cons_self, hfirst, hlast⟩
    · obtain ⟨other, hother, hrange⟩ := ih hrest
      exact ⟨other, List.mem_cons_of_mem _ hother, hrange⟩

end Code

section

variable {a b c d : Char} {before before' cs cs' : List Char}

theorem asSpace_eq_self_iff : asSpace c = c ↔ Code.isOtherSpace c.toNat = false := by
  rw [asSpace, Code.isOtherSpace, Code.has_spaceRanges, ← isSpaceSeparator, Bool.and_eq_false_iff,
    Bool.not_eq_false', Nat.beq_eq]
  by_cases h : isSpaceSeparator c = true
  · rw [if_pos h, h]
    exact ⟨fun heq => .inr (congrArg Char.toNat heq.symm),
      fun heq => heq.elim (fun h => absurd h.symm Bool.false_ne_true) fun hcode => Char.toNat_inj.mp hcode.symm⟩
  · rw [if_neg h]
    exact ⟨fun _ => .inl (Bool.eq_false_iff.mpr h), fun _ => rfl⟩

theorem asSpace_asSpace (c : Char) : asSpace (asSpace c) = asSpace c := by
  by_cases h : isSpaceSeparator c = true
  · have hspace : asSpace c = ' ' := if_pos h
    rw [hspace]
    rfl
  · have hself : asSpace c = c := if_neg h
    rw [hself, hself]

theorem asSpace_of_mem_decompose (h : asSpace c = c) (hd : d ∈ decompose c) : asSpace d = d := by
  rw [asSpace_eq_self_iff] at h ⊢
  exact Code.isOtherSpace_of_mem_parts h (Code.toNat_decompose c ▸ List.mem_map_of_mem hd)

theorem asSpace_composePair (h : composePair a b = some c) : asSpace c = c := by
  rw [asSpace_eq_self_iff]
  rcases composePair_cases h with hhangul | hmem
  · have hrange := Code.isHangulSyllable_iff.mp (isHangulSyllable_composeHangul hhangul)
    exact Code.isOtherSpace_eq_false (.inr (by omega))
  · have hall := List.all_eq_true.mp Code.spacesFit.ofCompositions _ hmem
    rwa [Bool.not_eq_true'] at hall

theorem spaced_eq_self (h : ∀ c ∈ cs, asSpace c = c) : spaced cs = cs :=
  (List.map_congr_left h).trans (List.map_id cs)

theorem opaqueForm_eq (cs : List Char) : opaqueForm cs = nfc (spaced cs) :=
  rfl

/-- No separator other than U+0020 is left in an opaque form. -/
theorem spaced_opaqueForm (cs : List Char) : spaced (opaqueForm cs) = opaqueForm cs := by
  refine spaced_eq_self (forall_nfc asSpace_of_mem_decompose (fun _ _ => asSpace_composePair) fun d hd => ?_)
  obtain ⟨c, -, rfl⟩ := List.mem_map.mp hd
  exact asSpace_asSpace c

theorem settled_of_separator (h : isSpaceSeparator c = true) : isSettled c = true ∧ caseEffect c = some false := by
  obtain ⟨range, hrange, hfirst, hlast⟩ := Code.exists_of_inRanges h
  have hsettles := List.all_eq_true.mp (List.all_eq_true.mp Code.spacesFit.settled range hrange)
    (c.toNat - range.1) (List.mem_range.mpr (by omega))
  rw [show range.1 + (c.toNat - range.1) = c.toNat by omega, Bool.and_eq_true, decide_eq_true_eq] at hsettles
  rwa [isSettled_eq, caseEffect_eq]

theorem caseEffect_asSpace (c : Char) : caseEffect (asSpace c) = caseEffect c := by
  rw [asSpace]
  split
  · next h => rw [(settled_of_separator h).2, (settled_of_separator (c := ' ') rfl).2]
  · rfl

theorem caseEffect_spaced (cs : List Char) : (spaced cs).findSome? caseEffect = cs.findSome? caseEffect := by
  rw [spaced, List.findSome?_map]
  exact congrArg (cs.findSome? ·) (funext caseEffect_asSpace)

theorem isSpaceSeparator_formAt (h : isSpaceSeparator c = false) (before cs : List Char) :
    isSpaceSeparator (formAt before c cs) = false := by
  rw [formAt]
  split
  · split <;> decide
  · rcases lowerChar_cases c with hsame | hletter
    · rwa [hsame]
    · have hall := List.all_eq_true.mp Code.spacesFit.ofLetters _ hletter
      rwa [Bool.not_eq_true', Code.has_spaceRanges] at hall

theorem asSpace_formAt (hbefore : before.findSome? caseEffect = before'.findSome? caseEffect)
    (hcs : cs.findSome? caseEffect = cs'.findSome? caseEffect) (c : Char) :
    asSpace (formAt before c cs) = formAt before' (asSpace c) cs' := by
  cases h : isSpaceSeparator c with
  | true =>
    have hspace : isSettled ' ' = true := (settled_of_separator rfl).1
    rw [formAt_of_settled (settled_of_separator h).1, asSpace, if_pos h, formAt_of_settled hspace]
  | false =>
    have hform := isSpaceSeparator_formAt h before cs
    rw [asSpace, asSpace, h, hform, if_neg Bool.false_ne_true, if_neg Bool.false_ne_true, formAt_congr hbefore hcs]

/-- Separators are replaced before lower-casing or after it. -/
theorem spaced_lowerFrom (hbefore : before.findSome? caseEffect = before'.findSome? caseEffect) (cs : List Char) :
    spaced (lowerFrom before cs) = lowerFrom before' (spaced cs) := by
  induction cs generalizing before before' with
  | nil => rfl
  | cons c rest ih =>
    by_cases hdotted : c.toNat = 0x130
    · obtain rfl := eq_dotted hdotted
      have hnext := @ih ('\u0130' :: before) ('\u0130' :: before') (by
        rw [List.findSome?_cons, List.findSome?_cons, hbefore])
      rw [lowerFrom_dotted]
      exact congrArg ('i' :: '\u0307' :: ·) hnext
    · have hnext := @ih (c :: before) (asSpace c :: before') (by
        rw [List.findSome?_cons, List.findSome?_cons, caseEffect_asSpace, hbefore])
      have hdotted' : (asSpace c).toNat ≠ 0x130 := by
        rw [asSpace]
        split
        · decide
        · exact hdotted
      rw [lowerFrom_cons hdotted]
      show asSpace _ :: spaced _ = lowerFrom before' (asSpace c :: spaced rest)
      rw [lowerFrom_cons hdotted', hnext, asSpace_formAt hbefore (caseEffect_spaced rest).symm]

theorem spaced_lowerChars (cs : List Char) : spaced (lowerChars cs) = lowerChars (spaced cs) :=
  spaced_lowerFrom rfl cs

end

/-! Opaque forms of lower-case forms. -/

/-- A text in lower case has the opaque form of its own opaque form in lower case. -/
theorem opaqueForm_lowerChars (cs : List Char) :
    opaqueForm (lowerChars cs) = opaqueForm (lowerChars (opaqueForm cs)) := by
  rw [opaqueForm_eq, opaqueForm_eq (lowerChars _), spaced_lowerChars, spaced_lowerChars, spaced_opaqueForm,
    opaqueForm_eq cs, nfc_lowerChars_nfc]

theorem opaqueForm_lowerChars_opaqueForm (cs : List Char) :
    opaqueForm (lowerChars (opaqueForm cs)) = nfc (lowerChars (opaqueForm cs)) := by
  rw [opaqueForm_eq (lowerChars _), spaced_lowerChars, spaced_opaqueForm]

section

variable {cs ds form : List Char}

theorem enforceOpaque_congr (h : opaqueForm cs = opaqueForm ds) : enforceOpaque cs = enforceOpaque ds := by
  rw [enforceOpaque, h, enforceOpaque]

theorem enforceOpaque_eq_ok_iff :
    enforceOpaque cs = .ok form ↔ opaqueForm cs = form ∧ form ≠ [] ∧ firstDisallowed? [] form = none := by
  unfold enforceOpaque
  dsimp only
  split
  · next hempty =>
    refine ⟨fun h => (nomatch h), fun ⟨hform, hne, _⟩ => absurd ?_ hne⟩
    rw [← hform]
    exact List.isEmpty_iff.mp hempty
  · next hempty =>
    split
    · next hfound =>
      refine ⟨fun h => (nomatch h), fun ⟨hform, _, hnone⟩ => ?_⟩
      rw [hform, hnone] at hfound
      exact nomatch hfound
    · next hnone =>
      refine ⟨fun h => ?_, fun ⟨hform, _, _⟩ => congrArg _ hform⟩
      obtain rfl := Except.ok.inj h
      exact ⟨rfl, fun heq => hempty (List.isEmpty_iff.mpr heq), hnone⟩

theorem lowerChars_ne_nil (h : cs ≠ []) : lowerChars cs ≠ [] := by
  obtain ⟨c, rest, rfl⟩ := List.exists_cons_of_ne_nil h
  intro hnil
  have hlowers := lowers_lowerFrom [] (c :: rest)
  rw [← lowerChars, hnil] at hlowers
  cases hlowers

/-- An allowed text in lower case that is in Normalization Form C is its own opaque form, and no other one is. -/
theorem enforceOpaque_lowerChars_iff (h : enforceOpaque cs = .ok form) :
    enforceOpaque (lowerChars form) = .ok (lowerChars form) ↔ nfc (lowerChars form) = lowerChars form := by
  obtain ⟨rfl, hne, hallowed⟩ := enforceOpaque_eq_ok_iff.mp h
  rw [enforceOpaque_eq_ok_iff, opaqueForm_lowerChars_opaqueForm]
  exact and_iff_left ⟨lowerChars_ne_nil hne, firstDisallowed?_lowerFrom .nil hallowed []⟩

end

end Scim.Text
