import Mathlib.Data.List.Chain
import Scim.Proofs.Text.Code
import Scim.Proofs.Text.NormalForm

/-!
Texts taken apart: the canonical decomposition is the same for a text and for its Normalization Form C.  Marks are put
in order once and for all, and what composition puts together falls apart into what it was put together from.
-/

namespace Scim.Text

namespace Code

/-! What the parts of characters are. -/

/-- Parts have no parts, the letters of Hangul have none, and a composition has the parts of both characters. -/
structure PartsFit : Prop where
  ofParts : (decompositions.all fun entry => entry.2.all fun p => decide (parts p = [p])) = true
  ofSingles : (singletons.all fun entry => decide (parts entry.2 = [entry.2])) = true
  ofJamo : ((List.range 0x100).all fun k => decide (parts (0x1100 + k) = [0x1100 + k])) = true
  ofCompositions : (compositions.all fun entry =>
    isScalar entry.2.2 && decide (parts entry.2.2 = parts entry.1 ++ parts entry.2.1)) = true

theorem partsFit : PartsFit where
  ofParts := by decide +kernel
  ofSingles := by decide +kernel
  ofJamo := by decide +kernel
  ofCompositions := by decide +kernel

variable {n p : Nat}

theorem parts_of_jamo (hlow : 0x1100 ≤ p) (hhigh : p < 0x1200) : parts p = [p] := by
  have hjamo := List.all_eq_true.mp partsFit.ofJamo (p - 0x1100) (List.mem_range.mpr (by omega))
  rw [decide_eq_true_eq] at hjamo
  rwa [show 0x1100 + (p - 0x1100) = p by omega] at hjamo

-- Parts have no parts themselves.
theorem parts_of_mem (h : p ∈ parts n) : parts p = [p] := by
  rcases parts_cases n with hself | ⟨hhangul, heq⟩ | hmem | ⟨m, hmem, heq⟩
  · rw [hself] at h
    rwa [List.mem_singleton.mp h]
  · have hrange := isScalar_hangulParts hhangul p (heq ▸ h)
    exact parts_of_jamo hrange.1 hrange.2
  · exact of_decide_eq_true (List.all_eq_true.mp (List.all_eq_true.mp partsFit.ofParts _ hmem) p h)
  · rw [heq] at h
    obtain rfl := List.mem_singleton.mp h
    exact of_decide_eq_true (List.all_eq_true.mp partsFit.ofSingles _ hmem)

end Code

theorem eq_of_map_toNat {cs ds : List Char} (h : cs.map Char.toNat = ds.map Char.toNat) : cs = ds :=
  List.map_injective_iff.mpr (fun _ _ => Char.toNat_inj.mp) h

theorem decompose_of_mem {c d : Char} (h : d ∈ decompose c) : decompose d = [d] := by
  apply eq_of_map_toNat
  rw [Code.toNat_decompose]
  exact Code.parts_of_mem (n := c.toNat) (Code.toNat_decompose c ▸ List.mem_map_of_mem h)

/-! Marks in canonical order. -/

section Order

variable {c d : Char} {cs ds m : List Char}

-- Marks of different classes are put in their places in either order.
theorem insertMark_comm (hd : combiningClass d ≠ 0) (hlt : combiningClass d < combiningClass c) (m : List Char) :
    insertMark d (insertMark c m) = insertMark c (insertMark d m) := by
  induction m with
  | nil => simp [insertMark, hd, hlt, Nat.lt_asymm hlt]
  | cons e rest ih =>
    by_cases hed : combiningClass e ≠ 0 ∧ combiningClass e < combiningClass d
    · have hec : combiningClass e ≠ 0 ∧ combiningClass e < combiningClass c := ⟨hed.1, by omega⟩
      rw [insertMark, if_pos hec, insertMark, if_pos hed, insertMark, if_pos hed, insertMark, if_pos hec, ih]
    · have hdc : combiningClass d ≠ 0 ∧ combiningClass d < combiningClass c := ⟨hd, hlt⟩
      have hcd : ¬ (combiningClass c ≠ 0 ∧ combiningClass c < combiningClass d) := by omega
      rw [insertMark.eq_def d (e :: rest)]
      dsimp only
      rw [if_neg hed, insertMark.eq_def c (d :: e :: rest)]
      dsimp only
      rw [if_pos hdc]
      by_cases hec : combiningClass e ≠ 0 ∧ combiningClass e < combiningClass c
      · rw [insertMark, if_pos hec, insertMark, if_neg hed]
      · rw [insertMark, if_neg hec, insertMark, if_neg hcd]

theorem foldr_insertMark (c : Char) (cs m : List Char) :
    (insertMark c cs).foldr insertMark m = insertMark c (cs.foldr insertMark m) := by
  induction cs with
  | nil => rfl
  | cons d rest ih =>
    rw [insertMark]
    split
    · next h => rw [List.foldr_cons, ih, List.foldr_cons, insertMark_comm h.1 h.2]
    · rfl

theorem foldr_orderMarks (cs m : List Char) : (orderMarks cs).foldr insertMark m = cs.foldr insertMark m := by
  induction cs with
  | nil => rfl
  | cons c rest ih =>
    show (insertMark c (orderMarks rest)).foldr insertMark m = _
    rw [foldr_insertMark, ih, List.foldr_cons]

theorem orderMarks_append (cs ds : List Char) : orderMarks (cs ++ ds) = cs.foldr insertMark (orderMarks ds) :=
  List.foldr_append

theorem orderMarks_append_congr (h : orderMarks ds = orderMarks m) (cs : List Char) :
    orderMarks (cs ++ ds) = orderMarks (cs ++ m) := by
  rw [orderMarks_append, orderMarks_append, h]

@[simp] theorem orderMarks_orderMarks (cs : List Char) : orderMarks (orderMarks cs) = orderMarks cs :=
  foldr_orderMarks cs []

-- A mark may be read in front of marks of lower classes.
theorem orderMarks_move (h : ∀ d ∈ ds, combiningClass d ≠ 0 ∧ combiningClass d < combiningClass c) (m : List Char) :
    orderMarks (c :: ds ++ m) = orderMarks (ds ++ c :: m) := by
  induction ds with
  | nil => rfl
  | cons d rest ih =>
    obtain ⟨hd, hrest⟩ := List.forall_mem_cons.mp h
    show insertMark c (insertMark d (orderMarks (rest ++ m))) = insertMark d (orderMarks (rest ++ c :: m))
    rw [← ih hrest, ← insertMark_comm hd.1 hd.2]
    rfl

/-- Marks that stand in canonical order. -/
def IsOrdered (cs : List Char) : Prop :=
  cs.IsChain fun c d => combiningClass d = 0 ∨ combiningClass c ≤ combiningClass d

theorem head?_insertMark (c : Char) (cs : List Char) : ∀ d ∈ (insertMark c cs).head?, d = c ∨ d ∈ cs.head? := by
  intro d hd
  cases cs with
  | nil => exact .inl (Option.some.inj hd).symm
  | cons e rest =>
    rw [insertMark] at hd
    split at hd
    · exact .inr hd
    · exact .inl (Option.some.inj hd).symm

theorem isOrdered_insertMark (h : IsOrdered cs) : IsOrdered (insertMark c cs) := by
  induction cs with
  | nil => exact List.isChain_singleton c
  | cons d rest ih =>
    obtain ⟨hnext, hrest⟩ := List.isChain_cons.mp h
    rw [insertMark]
    split
    · next hlower =>
      refine List.isChain_cons.mpr ⟨fun e he => ?_, ih hrest⟩
      rcases head?_insertMark c rest e he with rfl | he
      · exact .inr (Nat.le_of_lt hlower.2)
      · exact hnext e he
    · next hstays => exact List.isChain_cons_cons.mpr ⟨by omega, h⟩

theorem isOrdered_orderMarks (cs : List Char) : IsOrdered (orderMarks cs) := by
  induction cs with
  | nil => exact List.isChain_nil
  | cons c rest ih => exact isOrdered_insertMark ih

end Order

/-! Composition undone. -/

section Composition

variable {a b c starter : Char} {cs marks : List Char}

theorem parts_of_hangul {n : Nat} (h : isHangulSyllable n = true) : Code.parts n = hangulParts n := by
  have hlow := (Code.isHangulSyllable_iff.mp h).1
  rw [Code.parts_eq, if_neg (by omega), if_pos h]

theorem isScalar_of_lt {n : Nat} (h : n < 0xD800) : Code.isScalar n = true := by
  rw [Code.isScalar, Bool.or_eq_true, Nat.blt_eq]
  exact .inl h

theorem isHangulSyllable_composeHangul {m n k : Nat} (h : composeHangul m n = some k) :
    isHangulSyllable k = true := by
  rw [Code.isHangulSyllable_iff]
  unfold composeHangul at h
  split at h
  · obtain rfl := Option.some.inj h
    omega
  · split at h
    · next hletters =>
      obtain ⟨hopen, hmod, hlow, hhigh⟩ := hletters
      obtain rfl := Option.some.inj h
      have hrange := Code.isHangulSyllable_iff.mp hopen
      omega
    · exact nomatch h

/-- A syllable falls apart into the letters that it was composed of. -/
theorem parts_composeHangul {m n k : Nat} (h : composeHangul m n = some k) :
    Code.isScalar k = true ∧ Code.parts k = Code.parts m ++ Code.parts n := by
  have hsyllable := isHangulSyllable_composeHangul h
  have hcode := Code.isHangulSyllable_iff.mp hsyllable
  refine ⟨isScalar_of_lt (by omega), ?_⟩
  rw [parts_of_hangul hsyllable]
  unfold composeHangul at h
  split at h
  · next hletters =>
    obtain rfl := Option.some.inj h
    rw [Code.parts_of_jamo hletters.1 (by omega), Code.parts_of_jamo (by omega : 0x1100 ≤ n) (by omega), hangulParts,
      if_pos (by omega)]
    simp only [List.cons_append, List.nil_append, List.cons.injEq, and_true]
    omega
  · split at h
    · next hletters =>
      obtain ⟨hopen, hmod, hlow, hhigh⟩ := hletters
      obtain rfl := Option.some.inj h
      have hrange := Code.isHangulSyllable_iff.mp hopen
      rw [parts_of_hangul hopen, Code.parts_of_jamo (by omega : 0x1100 ≤ n) (by omega), hangulParts, hangulParts,
        if_neg (by omega), if_pos hmod]
      simp only [List.cons_append, List.nil_append, List.cons.injEq, and_true]
      omega
    · exact nomatch h

/-- Two characters compose by the rule for Hangul or by the table. -/
theorem composePair_cases (h : composePair a b = some c) :
    composeHangul a.toNat b.toNat = some c.toNat ∨ (a.toNat, b.toNat, c.toNat) ∈ compositions := by
  unfold composePair at h
  split at h
  · exact nomatch h
  · split at h
    · next hhangul =>
      obtain rfl := Option.some.inj h
      rw [Code.toNat_ofNat (parts_composeHangul hhangul).1]
      exact .inl hhangul
    · obtain ⟨⟨x, y, n⟩, hfind, rfl⟩ := Option.map_eq_some_iff.mp h
      have hpair := List.find?_some hfind
      rw [Bool.and_eq_true, decide_eq_true_eq, decide_eq_true_eq] at hpair
      obtain ⟨rfl, rfl⟩ := hpair
      have hmem := List.mem_of_find?_eq_some hfind
      have hall := List.all_eq_true.mp Code.partsFit.ofCompositions _ hmem
      rw [Bool.and_eq_true] at hall
      rw [Code.toNat_ofNat hall.1]
      exact .inr hmem

/-- What two characters compose to falls apart into the parts of both. -/
theorem decompose_composePair (h : composePair a b = some c) : decompose c = decompose a ++ decompose b := by
  apply eq_of_map_toNat
  rw [List.map_append, Code.toNat_decompose, Code.toNat_decompose, Code.toNat_decompose]
  rcases composePair_cases h with hhangul | hmem
  · exact (parts_composeHangul hhangul).2
  · have hall := List.all_eq_true.mp Code.partsFit.ofCompositions _ hmem
    rw [Bool.and_eq_true, decide_eq_true_eq] at hall
    exact hall.2

/-- Characters that have no parts. -/
def Decomposed (cs : List Char) : Prop :=
  ∀ c ∈ cs, decompose c = [c]

theorem flatMap_decompose_of_decomposed (h : Decomposed cs) : cs.flatMap decompose = cs := by
  induction cs with
  | nil => rfl
  | cons c rest ih =>
    obtain ⟨hc, hrest⟩ := List.forall_mem_cons.mp h
    rw [List.flatMap_cons, hc, ih hrest]
    rfl

/-- The canonical decomposition of a text: all characters in their parts, and marks in order. -/
def nfd (cs : List Char) : List Char :=
  orderMarks (cs.flatMap decompose)

theorem nfd_append_congr {ds : List Char} (h : nfd cs = nfd ds) (front : List Char) :
    nfd (front ++ cs) = nfd (front ++ ds) := by
  rw [nfd, nfd, List.flatMap_append, List.flatMap_append]
  exact orderMarks_append_congr h _

-- The marks passed by are in order, the nearest has the highest class, and what is to come is ordered behind it.
theorem nfd_composeAfter (hcs : Decomposed cs) (hmarks : Decomposed marks) (hordered : IsOrdered cs)
    (hhigh : ∀ m ∈ marks, combiningClass m ≠ 0 ∧ ∀ h ∈ marks.head?, combiningClass m ≤ combiningClass h)
    (hnext : ∀ h ∈ marks.head?, ∀ c ∈ cs.head?, combiningClass c = 0 ∨ combiningClass h ≤ combiningClass c) :
    nfd (composeAfter starter marks cs) = nfd (starter :: marks.reverse ++ cs) := by
  induction cs generalizing starter marks with
  | nil => rw [composeAfter, List.append_nil]
  | cons c rest ih =>
    obtain ⟨hc, hrest⟩ := List.forall_mem_cons.mp hcs
    obtain ⟨hfollows, hrestOrdered⟩ := List.isChain_cons.mp hordered
    rw [composeAfter]
    split
    · next composed hpair =>
      split at hpair
      · cases hpair
      · next hfree =>
        -- the character is read in front of the marks that it passes
        have hpassed : ∀ h ∈ marks.head?, combiningClass h < combiningClass c := by
          intro h hh
          rw [Option.any_eq_true] at hfree
          exact Nat.lt_of_not_le fun hle => hfree ⟨h, hh, decide_eq_true hle⟩
        have hlower : ∀ m ∈ marks.reverse, combiningClass m ≠ 0 ∧ combiningClass m < combiningClass c := by
          intro m hm
          obtain ⟨hne, hle⟩ := hhigh m (List.mem_reverse.mp hm)
          obtain ⟨h, hh⟩ := Option.isSome_iff_exists.mp
            (List.isSome_head?.mpr (List.ne_nil_of_mem (List.mem_reverse.mp hm)))
          exact ⟨hne, Nat.lt_of_le_of_lt (hle h hh) (hpassed h hh)⟩
        rw [ih hrest hmarks hrestOrdered hhigh fun h hh r hr => by have := hpassed h hh; have := hfollows r hr; omega]
        have hreverse : marks.reverse.flatMap decompose = marks.reverse :=
          flatMap_decompose_of_decomposed fun m hm => hmarks m (List.mem_reverse.mp hm)
        rw [nfd, nfd, List.flatMap_append, List.flatMap_append, List.flatMap_cons, List.flatMap_cons,
          List.flatMap_cons, decompose_composePair hpair, hc, hreverse, List.append_assoc, List.append_assoc,
          List.append_assoc]
        exact orderMarks_append_congr (orderMarks_move hlower _) _
    · split
      · next hstarter =>
        have hbehind := @ih c [] hrest (fun m hm => absurd hm List.not_mem_nil) hrestOrdered
          (fun m hm => absurd hm List.not_mem_nil) (fun m hm => absurd hm (Option.not_mem_none m))
        exact nfd_append_congr hbehind (starter :: marks.reverse)
      · next hmark =>
        rw [ih hrest (List.forall_mem_cons.mpr ⟨hc, hmarks⟩) hrestOrdered, List.reverse_cons, List.cons_append,
          List.cons_append, List.append_assoc]
        · rfl
        · refine List.forall_mem_cons.mpr ⟨⟨hmark, fun h hh => ?_⟩, fun m hm => ?_⟩
          · obtain rfl := Option.some.inj hh
            exact Nat.le_refl _
          · obtain ⟨hne, hle⟩ := hhigh m hm
            obtain ⟨h, hh⟩ := Option.isSome_iff_exists.mp (List.isSome_head?.mpr (List.ne_nil_of_mem hm))
            refine ⟨hne, fun d hd => ?_⟩
            obtain rfl := Option.some.inj hd
            have hlast := hnext h hh c rfl
            have hbelow := hle h hh
            omega
        · intro h hh r hr
          obtain rfl := Option.some.inj hh
          exact hfollows r hr

theorem nfd_compose (hcs : Decomposed cs) (hordered : IsOrdered cs) : nfd (compose cs) = nfd cs := by
  induction cs with
  | nil => rfl
  | cons c rest ih =>
    obtain ⟨-, hrest⟩ := List.forall_mem_cons.mp hcs
    obtain ⟨-, hrestOrdered⟩ := List.isChain_cons.mp hordered
    rw [compose]
    split
    · exact nfd_composeAfter hrest (fun m hm => absurd hm List.not_mem_nil) hrestOrdered
        (fun m hm => absurd hm List.not_mem_nil) (fun m hm => absurd hm (Option.not_mem_none m))
    · exact nfd_append_congr (ih hrest hrestOrdered) [c]

theorem decomposed_flatMap (cs : List Char) : Decomposed (cs.flatMap decompose) := by
  intro d hd
  obtain ⟨c, -, hc⟩ := List.mem_flatMap.mp hd
  exact decompose_of_mem hc

theorem decomposed_nfd (cs : List Char) : Decomposed (nfd cs) := fun d hd =>
  decomposed_flatMap cs d (mem_orderMarks.mp hd)

@[simp] theorem nfd_nfd (cs : List Char) : nfd (nfd cs) = nfd cs := by
  show orderMarks ((nfd cs).flatMap decompose) = nfd cs
  rw [flatMap_decompose_of_decomposed (decomposed_nfd cs)]
  exact orderMarks_orderMarks _

/-- A text and its Normalization Form C have the same canonical decomposition. -/
theorem nfd_nfc (cs : List Char) : nfd (nfc cs) = nfd cs := by
  show nfd (compose (nfd cs)) = nfd cs
  rw [nfd_compose (decomposed_nfd cs) (isOrdered_orderMarks _), nfd_nfd]

end Composition

end Scim.Text
