import Scim.Proofs.Text.Index
import Scim.Text.NormalForm

/-!
What the tables say of single code points, looked up by trees: canonical parts, combining classes, lower-case forms and
the part that a character plays for the case of its neighbours.
-/

namespace Scim.Text

namespace Code

open Index (pointRows rangeRows classRows runRows)

def decompositionTree : Index (List Nat) := (Index.build 11 (pointRows decompositions)).1

def singletonTree : Index Nat := (Index.build 10 (pointRows singletons)).1

def classTree : Index Nat := (Index.build 9 (classRows combiningClasses)).1

def runTree : Index CaseRun := (Index.build 8 (runRows lowercaseRuns)).1

/-- The tree of a set of code points. -/
def rangeTree (ranges : List (Nat × Nat)) : Index Unit := (Index.build 10 (rangeRows ranges)).1

/-- Whether the tree of a set of code points can be had from its ranges. -/
def fits (ranges : List (Nat × Nat)) : Bool :=
  Index.fits 10 (rangeRows ranges)

noncomputable def has (n : Nat) (ranges : List (Nat × Nat)) : Bool :=
  ((rangeTree ranges).find? n).isSome

/-- The canonical parts of a character. -/
noncomputable def parts (n : Nat) : List Nat :=
  bif Nat.blt n 0xC0 then [n]
  else bif Nat.ble 0xAC00 n && Nat.ble n 0xD7A3 then hangulParts n
  else
    match decompositionTree.find? n with
    | some parts => parts
    | none =>
      match singletonTree.find? n with
      | some m => [m]
      | none => [n]

noncomputable def combiningClass (n : Nat) : Nat :=
  bif Nat.blt n 128 then 0 else (classTree.find? n).getD 0

/-- The lower-case form of a character that has no rule of its own. -/
noncomputable def form (n : Nat) : Nat :=
  bif Nat.blt n 128 then bif Nat.ble 0x41 n && Nat.ble n 0x5A then n + 32 else n
  else
    match (runTree.find? n).filter (·.has n) with
    | some run => run.form n
    | none => n

/-- What a character is for the case of its neighbours: nothing if casing looks through it, else whether it has a
case. -/
noncomputable def effect (n : Nat) : Option Bool :=
  bif has n caseIgnorableRanges then none else some (has n casedRanges)

/-! The trees say what the tables say. -/

variable {n : Nat}

theorem has_eq_inRanges {ranges : List (Nat × Nat)} (h : fits ranges = true) : has n ranges = inRanges n ranges := by
  rw [has, rangeTree, Index.find?_build h, Index.among_rangeRows (Index.ascends_of_fits h)]

/-- A code point of a character. -/
def isScalar (n : Nat) : Bool :=
  Nat.blt n 0xD800 || Nat.blt 0xDFFF n && Nat.blt n 0x110000

/-- The trees hold the tables, and canonical parts are characters. -/
structure TreesFit : Prop where
  partRows : Index.fits 11 (pointRows decompositions) = true
  singleRows : Index.fits 10 (pointRows singletons) = true
  markRows : Index.fits 9 (classRows combiningClasses) = true
  caseRows : Index.fits 8 (runRows lowercaseRuns) = true
  partCodes : (decompositions.all fun entry => entry.2.all isScalar) = true
  singleCodes : (singletons.all fun entry => isScalar entry.2) = true

theorem treesFit : TreesFit where
  partRows := by decide +kernel
  singleRows := by decide +kernel
  markRows := by decide +kernel
  caseRows := by decide +kernel
  partCodes := by decide +kernel
  singleCodes := by decide +kernel

theorem find?_decompositionTree : decompositionTree.find? n = decompositions.lookup n := by
  rw [decompositionTree, Index.find?_build treesFit.partRows, Index.among_pointRows]

theorem find?_singletonTree : singletonTree.find? n = singletons.lookup n := by
  rw [singletonTree, Index.find?_build treesFit.singleRows, Index.among_pointRows]

theorem find?_classTree : (classTree.find? n).getD 0 = combiningClassIn n combiningClasses := by
  have hfits := treesFit.markRows
  rw [classTree, Index.find?_build hfits, Index.among_classRows (Index.ascends_of_fits hfits)]

theorem find?_runTree : (runTree.find? n).filter (·.has n) = lowercaseRuns.find? (·.has n) := by
  have hfits := treesFit.caseRows
  rw [runTree, Index.find?_build hfits, Index.among_runRows (Index.ascends_of_fits hfits)]

/-! Characters by their code points. -/

theorem toNat_ofNat (h : isScalar n = true) : (Char.ofNat n).toNat = n := by
  rw [isScalar, Bool.or_eq_true, Bool.and_eq_true, Nat.blt_eq, Nat.blt_eq, Nat.blt_eq] at h
  rw [Char.ofNat, dif_pos h]
  rfl

theorem map_toNat_ofNat {ns : List Nat} (h : ns.all isScalar = true) : (ns.map Char.ofNat).map Char.toNat = ns := by
  rw [List.map_map]
  refine (List.map_congr_left fun n hn => ?_).trans (List.map_id ns)
  exact toNat_ofNat (List.all_eq_true.mp h n hn)

theorem mem_of_lookup {α : Type} {table : List (Nat × α)} {entry : α} (h : table.lookup n = some entry) :
    (n, entry) ∈ table := by
  obtain ⟨before, behind, htable, -⟩ := List.lookup_eq_some_iff.mp h
  rw [htable]
  exact List.mem_append_right _ List.mem_cons_self

theorem isHangulSyllable_iff : isHangulSyllable n = true ↔ 0xAC00 ≤ n ∧ n ≤ 0xD7A3 := by
  rw [isHangulSyllable, Bool.and_eq_true, decide_eq_true_eq, decide_eq_true_eq]

-- The parts of a syllable are three blocks of letters.
theorem isScalar_hangulParts (h : isHangulSyllable n = true) :
    ∀ p ∈ hangulParts n, 0x1100 ≤ p ∧ p < 0x1200 := by
  obtain ⟨hlow, hhigh⟩ := isHangulSyllable_iff.mp h
  intro p hp
  unfold hangulParts at hp
  dsimp only at hp
  split at hp <;> simp only [List.mem_append, List.mem_cons, List.not_mem_nil, or_false] at hp <;> omega

theorem parts_eq (n : Nat) : parts n =
    if n < 0xC0 then [n]
    else if isHangulSyllable n then hangulParts n
    else
      match decompositions.lookup n with
      | some parts => parts
      | none =>
        match singletons.lookup n with
        | some m => [m]
        | none => [n] := by
  have hlow : Nat.blt n 0xC0 = decide (n < 0xC0) := by
    rw [Bool.eq_iff_iff, Nat.blt_eq, decide_eq_true_eq]
  have hhangul : (Nat.ble 0xAC00 n && Nat.ble n 0xD7A3) = isHangulSyllable n := by
    rw [Bool.eq_iff_iff, isHangulSyllable_iff, Bool.and_eq_true, Nat.ble_eq, Nat.ble_eq]
  rw [parts, hlow, hhangul, find?_decompositionTree, find?_singletonTree, Bool.cond_decide, Bool.cond_eq_ite]

/-- A character is its own only part, or its parts are those of a syllable or the ones in a table. -/
theorem parts_cases (n : Nat) : parts n = [n] ∨ isHangulSyllable n = true ∧ parts n = hangulParts n ∨
    (n, parts n) ∈ decompositions ∨ ∃ m, (n, m) ∈ singletons ∧ parts n = [m] := by
  have heq := parts_eq n
  split at heq
  · exact .inl heq
  · split at heq
    · next hhangul => exact .inr (.inl ⟨hhangul, heq⟩)
    · split at heq
      · next hparts => exact .inr (.inr (.inl (heq ▸ mem_of_lookup hparts)))
      · split at heq
        · next m hsingle => exact .inr (.inr (.inr ⟨m, mem_of_lookup hsingle, heq⟩))
        · exact .inl heq

theorem toNat_decompose (c : Char) : (Text.decompose c).map Char.toNat = parts c.toNat := by
  rw [parts_eq, Text.decompose]
  by_cases hlow : c.val < 0xC0
  · have hcode : c.toNat < 0xC0 := UInt32.lt_iff_toNat_lt.mp hlow
    rw [if_pos hlow, if_pos hcode]
    rfl
  · have hcode : ¬ c.toNat < 0xC0 := fun h => hlow (UInt32.lt_iff_toNat_lt.mpr h)
    rw [if_neg hlow, if_neg hcode]
    by_cases hhangul : isHangulSyllable c.toNat = true
    · rw [if_pos hhangul, if_pos hhangul, map_toNat_ofNat]
      refine List.all_eq_true.mpr fun p hp => ?_
      have hrange := isScalar_hangulParts hhangul p hp
      rw [isScalar, Bool.or_eq_true, Nat.blt_eq]
      exact .inl (by omega)
    · rw [if_neg hhangul, if_neg hhangul]
      cases hparts : decompositions.lookup c.toNat with
      | some parts =>
        exact map_toNat_ofNat (List.all_eq_true.mp treesFit.partCodes _ (mem_of_lookup hparts))
      | none =>
        cases hsingle : singletons.lookup c.toNat with
        | some n =>
          have hscalar := List.all_eq_true.mp treesFit.singleCodes _ (mem_of_lookup hsingle)
          exact congrArg (· :: []) (toNat_ofNat hscalar)
        | none => rfl

theorem combiningClass_toNat (c : Char) : combiningClass c.toNat = Text.combiningClass c := by
  have hlow : Nat.blt c.toNat 128 = decide (c.val < 128) := by
    rw [Bool.eq_iff_iff, Nat.blt_eq, decide_eq_true_eq]
    exact (@UInt32.lt_iff_toNat_lt c.val 128).symm
  rw [combiningClass, Text.combiningClass, hlow, Bool.cond_decide, find?_classTree]

theorem toNat_toLower : ∀ n < 128, (Char.ofNat n).toLower.toNat = form n := by
  decide

theorem toNat_lowerChar (c : Char) : (lowerChar c).toNat = form c.toNat := by
  by_cases hlow : c.val < 128
  · have hform := toNat_toLower c.toNat (UInt32.lt_iff_toNat_lt.mp hlow)
    rw [Char.ofNat_toNat] at hform
    rwa [lowerChar, if_pos hlow]
  · have hcode : Nat.blt c.toNat 128 = false := by
      rw [← Bool.not_eq_true, Nat.blt_eq]
      exact fun h => hlow (UInt32.lt_iff_toNat_lt.mpr h)
    have hrun : (lowercaseRuns.find? fun run =>
        run.first ≤ c.toNat && c.toNat ≤ run.last && (c.toNat - run.first) % run.step = 0) =
        lowercaseRuns.find? (·.has c.toNat) := rfl
    rw [lowerChar, if_neg hlow, form, hcode, cond_false, find?_runTree, hrun]
    cases hfind : lowercaseRuns.find? (·.has c.toNat) with
    | none => rfl
    | some run =>
      have hhas : run.has c.toNat = true := List.find?_some (p := fun run : CaseRun => run.has c.toNat) hfind
      have hplain := isPlainForm_of_letter run (List.mem_of_find?_eq_some hfind) c.toNat (CaseRun.mem_letters hhas)
      rw [isPlainForm, Bool.and_eq_true, Bool.and_eq_true] at hplain
      exact toNat_ofNat hplain.1.2

/-- The letters with another lower-case form, each with that form. -/
def letterForms : List (Nat × Nat) :=
  ((List.range 26).map fun k => (0x41 + k, 0x61 + k)) ++
    lowercaseRuns.flatMap fun run => run.letters.map fun n => (n, run.form n)

theorem mem_letterForms (h : form n ≠ n) : (n, form n) ∈ letterForms := by
  by_cases hlow : n < 128
  · have hcapitals : ∀ n < 128, form n ≠ n → (n, form n) ∈ (List.range 26).map fun k => (0x41 + k, 0x61 + k) := by
      decide
    exact List.mem_append_left _ (hcapitals n hlow h)
  · have hcode : Nat.blt n 128 = false := by
      rw [← Bool.not_eq_true, Nat.blt_eq]
      exact hlow
    rw [form, hcode, cond_false, find?_runTree] at h ⊢
    cases hfind : lowercaseRuns.find? (·.has n) with
    | none => rw [hfind] at h; exact absurd rfl h
    | some run =>
      have hhas : run.has n = true := List.find?_some (p := fun run : CaseRun => run.has n) hfind
      exact List.mem_append_right _ (List.mem_flatMap.mpr
        ⟨run, List.mem_of_find?_eq_some hfind, List.mem_map_of_mem (CaseRun.mem_letters hhas)⟩)

end Code

-- A character without another form is no letter of a run, and a letter is listed with its form.
theorem lowerChar_cases (c : Char) :
    lowerChar c = c ∨ (c.toNat, (lowerChar c).toNat) ∈ Code.letterForms := by
  rw [Code.toNat_lowerChar]
  by_cases h : Code.form c.toNat = c.toNat
  · exact .inl (Char.toNat_inj.mp ((Code.toNat_lowerChar c).trans h))
  · exact .inr (Code.mem_letterForms h)

end Scim.Text
