import Scim.Proofs.Text.Decomposed

/-!
Lower-casing and canonical decomposition: a text is lower-cased and taken apart in either order.  Which form a capital
sigma takes depends on what stands around it, so a character has to play the same part for the case of its neighbours
as its canonical parts do, and marks have to play it in any order.
-/

namespace Scim.Text

/-! The part that a character plays for the case of its neighbours. -/

/-- Nothing if casing looks through the character, else whether it has a case. -/
def caseEffect (c : Char) : Option Bool :=
  if inRanges c.toNat caseIgnorableRanges then none else some (inRanges c.toNat casedRanges)

theorem nextIsCased_eq (cs : List Char) : nextIsCased cs = (cs.findSome? caseEffect).getD false := by
  induction cs with
  | nil => rfl
  | cons c rest ih =>
    rw [nextIsCased] at ih ⊢
    rw [List.find?_cons, List.findSome?_cons, caseEffect]
    cases hignorable : inRanges c.toNat caseIgnorableRanges with
    | true => exact ih
    | false => rfl

/-- The form of a character that has one of its own, wherever it stands. -/
def forms (c : Char) : List Char :=
  if c.toNat = 0x130 then ['i', '\u0307'] else [lowerChar c]

/-- The form of a character in its place, if it is a single one. -/
def formAt (before : List Char) (c : Char) (rest : List Char) : Char :=
  if c = 'Σ' then if nextIsCased before && !nextIsCased rest then 'ς' else 'σ' else lowerChar c

section

variable {before before' cs : List Char} {c : Char}

theorem lowerFrom_cons (hdotted : c.toNat ≠ 0x130) (before cs : List Char) :
    lowerFrom before (c :: cs) = formAt before c cs :: lowerFrom (c :: before) cs := by
  rw [lowerFrom, formAt]
  simp only [if_neg hdotted]
  split <;> rfl

theorem lowerFrom_cons_of_ne (hsigma : c ≠ 'Σ') (before cs : List Char) :
    lowerFrom before (c :: cs) = forms c ++ lowerFrom (c :: before) cs := by
  rw [lowerFrom, forms]
  simp only [if_neg hsigma]

theorem formAt_congr (hbefore : before.findSome? caseEffect = before'.findSome? caseEffect) {cs' : List Char}
    (hcs : cs.findSome? caseEffect = cs'.findSome? caseEffect) (c : Char) :
    formAt before c cs = formAt before' c cs' := by
  rw [formAt, formAt, nextIsCased_eq, nextIsCased_eq, nextIsCased_eq, nextIsCased_eq, hbefore, hcs]

-- What stands in front of a text counts as far as it matters for case.
theorem lowerFrom_congr (h : before.findSome? caseEffect = before'.findSome? caseEffect) (cs : List Char) :
    lowerFrom before cs = lowerFrom before' cs := by
  induction cs generalizing before before' with
  | nil => rfl
  | cons c rest ih =>
    have hrest : lowerFrom (c :: before) rest = lowerFrom (c :: before') rest := by
      apply ih
      rw [List.findSome?_cons, List.findSome?_cons, h]
    rw [lowerFrom, lowerFrom, nextIsCased_eq, nextIsCased_eq, nextIsCased_eq, h, hrest]

theorem lowerFrom_append (h : ∀ c ∈ cs, c ≠ 'Σ') (before rest : List Char) :
    lowerFrom before (cs ++ rest) = cs.flatMap forms ++ lowerFrom (cs.reverse ++ before) rest := by
  induction cs generalizing before with
  | nil => rfl
  | cons c cs ih =>
    obtain ⟨hc, hcs⟩ := List.forall_mem_cons.mp h
    rw [List.cons_append, lowerFrom_cons_of_ne hc, ih hcs, List.flatMap_cons, List.append_assoc, List.reverse_cons,
      List.append_assoc]
    rfl

end

/-! Characters and their canonical parts. -/

namespace Code

noncomputable def forms (n : Nat) : List Nat :=
  bif Nat.beq n 0x130 then [0x69, 0x307] else [form n]

/-- A character has the forms that its parts have and plays the part that they play, read from either side. -/
noncomputable def agrees (n : Nat) (ps : List Nat) : Bool :=
  decide ((forms n).flatMap parts = ps.flatMap forms) &&
    (decide (ps.findSome? effect = effect n) && decide (ps.reverse.findSome? effect = effect n)) &&
    ps.all fun p => bif Nat.beq p 0x3A3 then Nat.beq n 0x3A3 else true

/-- All characters that have parts agree with them.  Where a letter has no parts, its form has none; the dotted
capital I has parts, and the sigmas have none. -/
structure FormsFit : Prop where
  ofParts : (decompositions.all fun entry => agrees entry.1 entry.2) = true
  ofSingles : (singletons.all fun entry => agrees entry.1 [entry.2]) = true
  ofLetters : (letterForms.all fun entry =>
    !decide (parts entry.1 = [entry.1]) || decide (parts entry.2 = [entry.2])) = true
  ofDotted : parts 0x130 ≠ [0x130]
  ofSigmas : ∀ n ∈ [0x3A3, 0x3C2, 0x3C3], parts n = [n]

theorem formsFit : FormsFit where
  ofParts := by decide +kernel
  ofSingles := by decide +kernel
  ofLetters := by decide +kernel
  ofDotted := by decide +kernel
  ofSigmas := by decide +kernel

/-- Whether no range meets the syllables of Hangul. -/
def avoidsHangul (ranges : List (Nat × Nat)) : Bool :=
  ranges.all fun (first, last) => Nat.blt last 0xAC00 || Nat.blt 0xD7A3 first

/-- Hangul has no other forms and no case. -/
structure HangulPlain : Prop where
  ignorable : avoidsHangul caseIgnorableRanges = true
  cased : avoidsHangul casedRanges = true
  letters : avoidsHangul (lowercaseRuns.map fun run => (run.first, run.last)) = true
  jamo : ((List.range 0x100).all fun k =>
    decide (forms (0x1100 + k) = [0x1100 + k]) && decide (effect (0x1100 + k) = some false)) = true

theorem hangulPlain : HangulPlain where
  ignorable := by decide +kernel
  cased := by decide +kernel
  letters := by decide +kernel
  jamo := by decide +kernel

theorem fits_effect : fits caseIgnorableRanges = true ∧ fits casedRanges = true := by
  decide +kernel

variable {n : Nat}

theorem not_inRanges_of_avoidsHangul {ranges : List (Nat × Nat)} (h : avoidsHangul ranges = true)
    (hn : isHangulSyllable n = true) : inRanges n ranges = false := by
  obtain ⟨hlow, hhigh⟩ := isHangulSyllable_iff.mp hn
  induction ranges with
  | nil => rfl
  | cons range rest ih =>
    rw [avoidsHangul, List.all_cons, ← avoidsHangul, Bool.and_eq_true, Bool.or_eq_true, Nat.blt_eq, Nat.blt_eq] at h
    rw [inRanges, ih h.2, Bool.or_false, ← Bool.decide_and, decide_eq_false]
    omega

theorem effect_eq (n : Nat) :
    effect n = if inRanges n caseIgnorableRanges then none else some (inRanges n casedRanges) := by
  obtain ⟨hignorable, hcased⟩ := fits_effect
  rw [effect, has_eq_inRanges hignorable, has_eq_inRanges hcased, Bool.cond_eq_ite]

theorem form_eq_self (hhigh : 128 ≤ n) (h : ∀ run ∈ lowercaseRuns, run.has n = false) : form n = n := by
  have hcode : Nat.blt n 128 = false := by
    rw [← Bool.not_eq_true, Nat.blt_eq]
    omega
  have hnone : lowercaseRuns.find? (·.has n) = none :=
    List.find?_eq_none.mpr fun run hrun => by rw [h run hrun]; exact Bool.false_ne_true
  rw [form, hcode, cond_false, find?_runTree, hnone]

theorem forms_eq (h : n ≠ 0x130) : forms n = [form n] := by
  have hcode : Nat.beq n 0x130 = false := by
    rw [← Bool.not_eq_true, Nat.beq_eq]
    exact h
  rw [forms, hcode, cond_false]

theorem agrees_of_plain (hdotted : n ≠ 0x130) (hparts : parts n = [n]) (hform : parts (form n) = [form n]) :
    agrees n (parts n) = true := by
  simp [agrees, forms_eq hdotted, hparts, hform]

theorem findSome?_effect {ps : List Nat} (hne : ps ≠ []) (h : ∀ p ∈ ps, effect p = some false) :
    ps.findSome? effect = some false := by
  obtain ⟨p, rest, rfl⟩ := List.exists_cons_of_ne_nil hne
  rw [List.findSome?_cons, h p List.mem_cons_self]

theorem form_hangul (h : isHangulSyllable n = true) : form n = n := by
  obtain ⟨hlow, hhigh⟩ := isHangulSyllable_iff.mp h
  refine form_eq_self (by omega) fun run hrun => Bool.eq_false_iff.mpr fun hhas => ?_
  have hmiss := List.all_eq_true.mp hangulPlain.letters (run.first, run.last) (List.mem_map_of_mem hrun)
  rw [Bool.or_eq_true, Nat.blt_eq, Nat.blt_eq] at hmiss
  obtain ⟨hfirst, hlast, -⟩ := CaseRun.has_iff.mp hhas
  omega

-- Syllables and their letters have no case, and casing does not look through them.
theorem agrees_hangul (h : isHangulSyllable n = true) : agrees n (parts n) = true := by
  obtain ⟨hlow, hhigh⟩ := isHangulSyllable_iff.mp h
  have hletters : ∀ p ∈ hangulParts n, forms p = [p] ∧ effect p = some false ∧ Nat.beq p 0x3A3 = false := by
    intro p hp
    have hrange := isScalar_hangulParts h p hp
    have hjamo := List.all_eq_true.mp hangulPlain.jamo (p - 0x1100) (List.mem_range.mpr (by omega))
    rw [show 0x1100 + (p - 0x1100) = p by omega, Bool.and_eq_true, decide_eq_true_eq, decide_eq_true_eq] at hjamo
    refine ⟨hjamo.1, hjamo.2, ?_⟩
    rw [← Bool.not_eq_true, Nat.beq_eq]
    omega
  have hne : hangulParts n ≠ [] := by
    unfold hangulParts
    dsimp only
    split <;> simp
  have hforms : forms n = [n] := by
    rw [forms_eq (by omega), form_hangul h]
  have heffect : effect n = some false := by
    rw [effect_eq, not_inRanges_of_avoidsHangul hangulPlain.ignorable h, not_inRanges_of_avoidsHangul hangulPlain.cased h]
    rfl
  have hparts : (hangulParts n).flatMap forms = hangulParts n := by
    rw [List.flatMap_congr fun p hp => (hletters p hp).1]
    exact List.flatMap_singleton' _
  have hsigma : ((hangulParts n).all fun p => bif Nat.beq p 0x3A3 then Nat.beq n 0x3A3 else true) = true := by
    refine List.all_eq_true.mpr fun p hp => ?_
    rw [(hletters p hp).2.2, cond_false]
  rw [agrees, parts_of_hangul h, hforms, hparts, heffect, hsigma,
    findSome?_effect hne fun p hp => (hletters p hp).2.1,
    findSome?_effect (List.reverse_ne_nil_iff.mpr hne) fun p hp => (hletters p (List.mem_reverse.mp hp)).2.1]
  simp [parts_of_hangul h]

/-- Every character agrees with its canonical parts. -/
theorem agrees_all (n : Nat) : agrees n (parts n) = true := by
  rcases parts_cases n with hself | ⟨hhangul, -⟩ | hmem | ⟨m, hmem, hparts⟩
  · refine agrees_of_plain (fun heq => formsFit.ofDotted (heq ▸ hself)) hself ?_
    by_cases hform : form n = n
    · rw [hform, hself]
    · have hletter := List.all_eq_true.mp formsFit.ofLetters _ (mem_letterForms hform)
      rw [decide_eq_true hself, Bool.not_true, Bool.false_or] at hletter
      exact of_decide_eq_true hletter
  · exact agrees_hangul hhangul
  · exact List.all_eq_true.mp formsFit.ofParts _ hmem
  · rw [hparts]
    exact List.all_eq_true.mp formsFit.ofSingles _ hmem

end Code

theorem toNat_forms (c : Char) : (forms c).map Char.toNat = Code.forms c.toNat := by
  by_cases h : c.toNat = 0x130
  · rw [forms, if_pos h, h]
    rfl
  · rw [forms, if_neg h, Code.forms_eq h, ← Code.toNat_lowerChar]
    rfl

theorem caseEffect_eq (c : Char) : caseEffect c = Code.effect c.toNat :=
  (Code.effect_eq c.toNat).symm

theorem map_toNat_flatMap {f : Char → List Char} {g : Nat → List Nat} (h : ∀ c, (f c).map Char.toNat = g c.toNat)
    (cs : List Char) : (cs.flatMap f).map Char.toNat = (cs.map Char.toNat).flatMap g := by
  rw [List.map_flatMap, List.flatMap_map]
  exact List.flatMap_congr fun c _ => h c

theorem findSome?_caseEffect (cs : List Char) :
    cs.findSome? caseEffect = (cs.map Char.toNat).findSome? Code.effect := by
  rw [List.findSome?_map]
  exact congrArg (cs.findSome? ·) (funext caseEffect_eq)

theorem decompose_forms (c : Char) : (forms c).flatMap decompose = (decompose c).flatMap forms := by
  have hagrees := Code.agrees_all c.toNat
  rw [Code.agrees, Bool.and_eq_true, Bool.and_eq_true, decide_eq_true_eq] at hagrees
  apply eq_of_map_toNat
  rw [map_toNat_flatMap Code.toNat_decompose, map_toNat_flatMap toNat_forms, toNat_forms, Code.toNat_decompose]
  exact hagrees.1.1

theorem caseEffect_decompose (c : Char) : (decompose c).findSome? caseEffect = caseEffect c ∧
    (decompose c).reverse.findSome? caseEffect = caseEffect c := by
  have hagrees := Code.agrees_all c.toNat
  simp only [Code.agrees, Bool.and_eq_true, decide_eq_true_eq] at hagrees
  rw [findSome?_caseEffect, findSome?_caseEffect, List.map_reverse, Code.toNat_decompose, caseEffect_eq]
  exact hagrees.1.2

theorem sigma_of_mem_decompose {c : Char} (h : 'Σ' ∈ decompose c) : c = 'Σ' := by
  have hagrees := Code.agrees_all c.toNat
  rw [Code.agrees, Bool.and_eq_true] at hagrees
  have hpart := List.all_eq_true.mp hagrees.2 _ (Code.toNat_decompose c ▸ List.mem_map_of_mem (f := Char.toNat) h)
  exact Char.toNat_inj.mp (Nat.beq_eq.mp hpart)

/-! A text and its parts. -/

section

variable {before before' cs : List Char}

theorem caseEffect_flatMap_decompose (cs : List Char) :
    (cs.flatMap decompose).findSome? caseEffect = cs.findSome? caseEffect := by
  induction cs with
  | nil => rfl
  | cons c rest ih =>
    rw [List.flatMap_cons, List.findSome?_append, (caseEffect_decompose c).1, ih, List.findSome?_cons]
    cases caseEffect c <;> rfl

theorem decompose_sigma {c : Char} (h : c.toNat ∈ [0x3A3, 0x3C2, 0x3C3]) : decompose c = [c] := by
  apply eq_of_map_toNat
  rw [Code.toNat_decompose]
  exact Code.formsFit.ofSigmas _ h

theorem decompose_formAt_sigma (before cs : List Char) :
    decompose (formAt before 'Σ' cs) = [formAt before 'Σ' cs] := by
  rw [formAt, if_pos rfl]
  split <;> exact decompose_sigma (by decide)

/-- A text is lower-cased and taken apart in either order. -/
theorem flatMap_decompose_lowerFrom (h : before.findSome? caseEffect = before'.findSome? caseEffect)
    (cs : List Char) : (lowerFrom before cs).flatMap decompose = lowerFrom before' (cs.flatMap decompose) := by
  induction cs generalizing before before' with
  | nil => rfl
  | cons c rest ih =>
    have hnext : (c :: before).findSome? caseEffect =
        ((decompose c).reverse ++ before').findSome? caseEffect := by
      rw [List.findSome?_append, (caseEffect_decompose c).2, List.findSome?_cons, h]
      cases caseEffect c <;> rfl
    by_cases hsigma : c = 'Σ'
    · subst hsigma
      have hparts : decompose 'Σ' = ['Σ'] := decompose_sigma (by decide)
      rw [hparts] at hnext
      rw [List.flatMap_cons, hparts, List.singleton_append, lowerFrom_cons (by decide), lowerFrom_cons (by decide),
        List.flatMap_cons, ih hnext, formAt_congr h (caseEffect_flatMap_decompose rest).symm,
        decompose_formAt_sigma]
      rfl
    · rw [List.flatMap_cons, lowerFrom_cons_of_ne hsigma, List.flatMap_append, ih hnext, decompose_forms,
        lowerFrom_append fun d hd heq => hsigma (sigma_of_mem_decompose (heq ▸ hd))]

end

/-! Characters without another form. -/

namespace Code

/-- A code point of a character that is its own lower-case form wherever it stands. -/
noncomputable def settles (n : Nat) : Bool :=
  !Nat.beq n 0x130 && !Nat.beq n 0x3A3 && Nat.beq (form n) n

end Code

section

variable {c : Char}

theorem isSettled_iff : isSettled c = true ↔ c.toNat ≠ 0x130 ∧ c ≠ 'Σ' ∧ lowerChar c = c := by
  simp only [isSettled, Bool.and_eq_true, decide_eq_true_eq, and_assoc]

theorem isSettled_eq (c : Char) : isSettled c = Code.settles c.toNat := by
  rw [Bool.eq_iff_iff, isSettled_iff, Code.settles, Bool.and_eq_true, Bool.and_eq_true, Bool.not_eq_true',
    Bool.not_eq_true', ← Bool.not_eq_true, ← Bool.not_eq_true, Nat.beq_eq, Nat.beq_eq, Nat.beq_eq, and_assoc,
    ← Code.toNat_lowerChar, Char.toNat_inj]
  exact and_congr_right' (and_congr_left' (not_congr Char.toNat_inj.symm))

theorem formAt_of_settled (h : isSettled c = true) (before cs : List Char) : formAt before c cs = c := by
  obtain ⟨-, hsigma, hform⟩ := isSettled_iff.mp h
  rw [formAt, if_neg hsigma, hform]

end

/-! Marks in order. -/

namespace Code

/-- Marks have no other forms and no case. -/
noncomputable def settlesMarks (row : Nat × Nat × Nat) : Bool :=
  (List.range (row.2.1 + 1 - row.1)).all fun k =>
    settles (row.1 + k) && decide (effect (row.1 + k) ≠ some true)

/-- The forms of letters are no marks. -/
theorem settlesMarks_tables : (combiningClasses.all settlesMarks) = true ∧
    (letterForms.all fun entry => Nat.beq (combiningClass entry.2) 0) = true := by
  decide +kernel

end Code

section

variable {before before' cs m : List Char} {c d : Char}

theorem exists_of_combiningClassIn {n : Nat} {table : List (Nat × Nat × Nat)} (h : combiningClassIn n table ≠ 0) :
    ∃ row ∈ table, row.1 ≤ n ∧ n ≤ row.2.1 := by
  induction table with
  | nil => exact absurd rfl h
  | cons row rest ih =>
    obtain ⟨first, last, cls⟩ := row
    rw [combiningClassIn] at h
    split at h
    · exact absurd rfl h
    · split at h
      · exact ⟨_, List.mem_cons_self, by dsimp only; omega⟩
      · obtain ⟨row, hrow, hrange⟩ := ih h
        exact ⟨row, List.mem_cons_of_mem _ hrow, hrange⟩

theorem settled_of_mark (h : combiningClass c ≠ 0) : isSettled c = true ∧ caseEffect c ≠ some true := by
  have hrow : ∃ row ∈ combiningClasses, row.1 ≤ c.toNat ∧ c.toNat ≤ row.2.1 := by
    unfold combiningClass at h
    split at h
    · exact absurd rfl h
    · exact exists_of_combiningClassIn h
  obtain ⟨row, hrow, hfirst, hlast⟩ := hrow
  have hsettles := List.all_eq_true.mp (List.all_eq_true.mp Code.settlesMarks_tables.1 row hrow) (c.toNat - row.1)
    (List.mem_range.mpr (by omega))
  rw [show row.1 + (c.toNat - row.1) = c.toNat by omega, Bool.and_eq_true, decide_eq_true_eq] at hsettles
  rwa [isSettled_eq, caseEffect_eq]

theorem formAt_mark (h : combiningClass c ≠ 0) (before cs : List Char) : formAt before c cs = c :=
  formAt_of_settled (settled_of_mark h).1 before cs

theorem combiningClass_lowerChar (c : Char) : combiningClass (lowerChar c) = combiningClass c := by
  by_cases hmark : combiningClass c = 0
  · rcases lowerChar_cases c with hsame | hletter
    · rw [hsame]
    · have hzero := List.all_eq_true.mp Code.settlesMarks_tables.2 _ hletter
      rw [Nat.beq_eq, Code.combiningClass_toNat] at hzero
      rw [hzero, hmark]
  · rw [(isSettled_iff.mp (settled_of_mark hmark).1).2.2]

theorem combiningClass_formAt (before : List Char) (c : Char) (cs : List Char) :
    combiningClass (formAt before c cs) = combiningClass c := by
  rw [formAt]
  split
  · next hsigma =>
    subst hsigma
    split <;> decide
  · exact combiningClass_lowerChar c

-- Next to each other, marks play their part in either order.
theorem caseEffect_comm (hc : combiningClass c ≠ 0) (hd : combiningClass d ≠ 0) (cs : List Char) :
    (c :: d :: cs).findSome? caseEffect = (d :: c :: cs).findSome? caseEffect := by
  obtain ⟨-, hc⟩ := settled_of_mark hc
  obtain ⟨-, hd⟩ := settled_of_mark hd
  simp only [List.findSome?_cons]
  rcases hce : caseEffect c with _ | _ | _ <;> rcases hde : caseEffect d with _ | _ | _ <;> simp_all

theorem caseEffect_insertMark (c : Char) (m : List Char) :
    (insertMark c m).findSome? caseEffect = (c :: m).findSome? caseEffect := by
  induction m with
  | nil => rfl
  | cons d rest ih =>
    rw [insertMark]
    split
    · next h =>
      rw [caseEffect_comm (by omega) h.1]
      simp only [List.findSome?_cons, ih]
    · rfl

theorem caseEffect_orderMarks (cs : List Char) :
    (orderMarks cs).findSome? caseEffect = cs.findSome? caseEffect := by
  induction cs with
  | nil => rfl
  | cons c rest ih =>
    show (insertMark c (orderMarks rest)).findSome? caseEffect = _
    rw [caseEffect_insertMark, List.findSome?_cons, List.findSome?_cons, ih]

theorem lowerFrom_insertMark (hc : c.toNat ≠ 0x130) (hm : ∀ d ∈ m, d.toNat ≠ 0x130) (before : List Char) :
    lowerFrom before (insertMark c m) = insertMark (formAt before c m) (lowerFrom (c :: before) m) := by
  induction m generalizing before with
  | nil =>
    rw [insertMark, lowerFrom_cons hc]
    rfl
  | cons d rest ih =>
    obtain ⟨hd, hrest⟩ := List.forall_mem_cons.mp hm
    rw [lowerFrom_cons hd, insertMark, insertMark, combiningClass_formAt, combiningClass_formAt]
    split
    · next h =>
      -- both are marks, which keep their forms wherever they stand
      have hcmark : combiningClass c ≠ 0 := by omega
      rw [lowerFrom_cons hd, ih hrest, formAt_mark h.1, formAt_mark h.1, formAt_mark hcmark, formAt_mark hcmark,
        lowerFrom_congr (caseEffect_comm hcmark h.1 before)]
    · rw [lowerFrom_cons hc, lowerFrom_cons hd]

theorem orderMarks_lowerFrom (hcs : ∀ c ∈ cs, c.toNat ≠ 0x130) (before : List Char) :
    orderMarks (lowerFrom before cs) = lowerFrom before (orderMarks cs) := by
  induction cs generalizing before with
  | nil => rfl
  | cons c rest ih =>
    obtain ⟨hc, hrest⟩ := List.forall_mem_cons.mp hcs
    show _ = lowerFrom before (insertMark c (orderMarks rest))
    rw [lowerFrom_insertMark hc fun d hd => hrest d (mem_orderMarks.mp hd), ← ih hrest, lowerFrom_cons hc,
      formAt_congr rfl (caseEffect_orderMarks rest).symm]
    rfl

end

/-- The canonical decomposition of the lower-case form is the lower-case form of the canonical decomposition. -/
theorem nfd_lowerChars (cs : List Char) : nfd (lowerChars cs) = lowerChars (nfd cs) := by
  have hdotted : ∀ c ∈ cs.flatMap decompose, c.toNat ≠ 0x130 := by
    intro c hc heq
    have hparts := congrArg (List.map Char.toNat) (decomposed_flatMap cs c hc)
    rw [Code.toNat_decompose, List.map_singleton, heq] at hparts
    exact Code.formsFit.ofDotted hparts
  rw [nfd, lowerChars, flatMap_decompose_lowerFrom rfl, orderMarks_lowerFrom hdotted]
  rfl

/-- Texts of one Normalization Form C have lower-case forms of one. -/
theorem nfc_lowerChars_nfc (cs : List Char) : nfc (lowerChars (nfc cs)) = nfc (lowerChars cs) := by
  show compose (nfd (lowerChars (nfc cs))) = compose (nfd (lowerChars cs))
  rw [nfd_lowerChars, nfd_lowerChars, nfd_nfc]

end Scim.Text
