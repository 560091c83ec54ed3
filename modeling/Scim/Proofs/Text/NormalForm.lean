import Scim.Text.Opaque

/-!
ASCII texts in Normalization Form C: they stay as they are, and next to no other text is brought to one.
-/

namespace Scim.Text

/-- The characters of ASCII. -/
def IsAsciiChar (c : Char) : Prop :=
  c.toNat < 0x80

instance (c : Char) : Decidable (IsAsciiChar c) :=
  inferInstanceAs (Decidable (c.toNat < 0x80))

/-! ASCII texts stay as they are. -/

theorem decompose_ascii {c : Char} (h : IsAsciiChar c) : decompose c = [c] := by
  have hval : c.val < 0xC0 := by
    rw [UInt32.lt_iff_toNat_lt]
    exact Nat.lt_trans h (by decide)
  rw [decompose, if_pos hval]

theorem combiningClass_ascii {c : Char} (h : IsAsciiChar c) : combiningClass c = 0 := by
  have hval : c.val < 128 := UInt32.lt_iff_toNat_lt.mpr h
  rw [combiningClass, if_pos hval]

theorem flatMap_decompose_ascii {cs : List Char} (h : ∀ c ∈ cs, IsAsciiChar c) : cs.flatMap decompose = cs := by
  induction cs with
  | nil => rfl
  | cons c rest ih =>
    obtain ⟨hc, hrest⟩ := List.forall_mem_cons.mp h
    rw [List.flatMap_cons, decompose_ascii hc, ih hrest]
    rfl

theorem insertMark_ascii {c : Char} (h : IsAsciiChar c) (cs : List Char) : insertMark c cs = c :: cs := by
  cases cs with
  | nil => rfl
  | cons d rest =>
    rw [insertMark, combiningClass_ascii h, if_neg fun hd => Nat.not_lt_zero _ hd.2]

theorem orderMarks_ascii {cs : List Char} (h : ∀ c ∈ cs, IsAsciiChar c) : orderMarks cs = cs := by
  induction cs with
  | nil => rfl
  | cons c rest ih =>
    obtain ⟨hc, hrest⟩ := List.forall_mem_cons.mp h
    show insertMark c (orderMarks rest) = c :: rest
    rw [ih hrest, insertMark_ascii hc]

theorem composePair_ascii (a : Char) {b : Char} (h : IsAsciiChar b) : composePair a b = none := by
  have hval : b.val < 0x300 := by
    rw [UInt32.lt_iff_toNat_lt]
    exact Nat.lt_trans h (by decide)
  rw [composePair, if_pos hval]

theorem composeAfter_ascii {starter : Char} {cs : List Char} (h : ∀ c ∈ cs, IsAsciiChar c) :
    composeAfter starter [] cs = starter :: cs := by
  induction cs generalizing starter with
  | nil => rfl
  | cons c rest ih =>
    obtain ⟨hc, hrest⟩ := List.forall_mem_cons.mp h
    rw [composeAfter]
    simp only [composePair_ascii starter hc, ite_self, combiningClass_ascii hc, if_true, ih hrest]
    rfl

theorem nfc_ascii {cs : List Char} (h : ∀ c ∈ cs, IsAsciiChar c) : nfc cs = cs := by
  rw [nfc, flatMap_decompose_ascii h, orderMarks_ascii h]
  cases cs with
  | nil => rfl
  | cons c rest =>
    obtain ⟨hc, hrest⟩ := List.forall_mem_cons.mp h
    rw [compose, if_pos (combiningClass_ascii hc), composeAfter_ascii hrest]

/-! What a text is brought to is no ASCII text, if the text is none. -/

theorem ofNat_not_ascii {n : Nat} (hlow : 0x80 ≤ n) (hvalid : n.isValidChar) : ¬ IsAsciiChar (Char.ofNat n) := by
  have htoNat : (Char.ofNat n).toNat = n := by
    rw [Char.ofNat, dif_pos hvalid]
    rfl
  rw [IsAsciiChar, htoNat]
  omega

/-- A code point of a character outside ASCII. -/
def isOutside (n : Nat) : Bool :=
  Nat.ble 0x80 n && (Nat.blt n 0xD800 || Nat.blt 0xDFFF n && Nat.blt n 0x110000)

theorem not_ascii_of_isOutside {n : Nat} (h : isOutside n = true) : ¬ IsAsciiChar (Char.ofNat n) := by
  rw [isOutside, Bool.and_eq_true, Bool.or_eq_true, Bool.and_eq_true, Nat.ble_eq, Nat.blt_eq, Nat.blt_eq,
    Nat.blt_eq] at h
  obtain ⟨hlow, hvalid⟩ := h
  refine ofNat_not_ascii hlow ?_
  rcases hvalid with hvalid | ⟨hlow', hhigh⟩
  · exact .inl hvalid
  · exact .inr ⟨hlow', hhigh⟩

theorem isOutside_compositions : (compositions.all fun entry => isOutside entry.2.2) = true := by
  decide +kernel

theorem isOutside_decompositions : (decompositions.all fun entry => entry.2.any isOutside) = true := by
  decide +kernel

/-- The characters of ASCII that another character stands for. -/
def isAliased (n : Nat) : Bool :=
  n == 0x3B || n == 0x4B || n == 0x60

theorem isOutside_singletons : (singletons.all fun entry => isOutside entry.2 || isAliased entry.2) = true := by
  decide +kernel

theorem composeHangul_isOutside {a b n : Nat} (h : composeHangul a b = some n) : isOutside n = true := by
  have houtside : 0x80 ≤ n ∧ n < 0xD800 := by
    unfold composeHangul at h
    split at h
    · obtain rfl := Option.some.inj h
      omega
    · split at h
      · rename_i hsyllable
        obtain rfl := Option.some.inj h
        rw [isHangulSyllable, Bool.and_eq_true, decide_eq_true_eq, decide_eq_true_eq] at hsyllable
        omega
      · exact nomatch h
  rw [isOutside, Bool.and_eq_true, Bool.or_eq_true, Nat.ble_eq, Nat.blt_eq]
  exact ⟨houtside.1, .inl houtside.2⟩

theorem composePair_not_ascii {a b c : Char} (h : composePair a b = some c) : ¬ IsAsciiChar c := by
  unfold composePair at h
  split at h
  · exact nomatch h
  · split at h
    · rename_i n hhangul
      obtain rfl := Option.some.inj h
      exact not_ascii_of_isOutside (composeHangul_isOutside hhangul)
    · obtain ⟨entry, hentry, rfl⟩ := Option.map_eq_some_iff.mp h
      exact not_ascii_of_isOutside (List.all_eq_true.mp isOutside_compositions _ (List.mem_of_find?_eq_some hentry))

-- A character is composed away into one outside ASCII, or stays.
theorem ascii_of_composeAfter {starter : Char} {marks cs : List Char}
    (h : ∀ c ∈ composeAfter starter marks cs, IsAsciiChar c) :
    IsAsciiChar starter ∧ (∀ c ∈ marks, IsAsciiChar c) ∧ ∀ c ∈ cs, IsAsciiChar c := by
  induction cs generalizing starter marks with
  | nil =>
    rw [composeAfter] at h
    obtain ⟨hstarter, hmarks⟩ := List.forall_mem_cons.mp h
    exact ⟨hstarter, fun c hc => hmarks c (List.mem_reverse.mpr hc), fun c hc => absurd hc List.not_mem_nil⟩
  | cons c rest ih =>
    rw [composeAfter] at h
    split at h
    · rename_i composed hpair
      split at hpair
      · exact nomatch hpair
      · exact absurd (ih h).1 (composePair_not_ascii hpair)
    · split at h
      · obtain ⟨hfront, hbehind⟩ := List.forall_mem_append.mp h
        obtain ⟨hstarter, hmarks⟩ := List.forall_mem_cons.mp hfront
        obtain ⟨hc, -, hrest⟩ := ih hbehind
        exact ⟨hstarter, fun d hd => hmarks d (List.mem_reverse.mpr hd), List.forall_mem_cons.mpr ⟨hc, hrest⟩⟩
      · obtain ⟨hstarter, hmarks, hrest⟩ := ih h
        obtain ⟨hc, hmarks⟩ := List.forall_mem_cons.mp hmarks
        exact ⟨hstarter, hmarks, List.forall_mem_cons.mpr ⟨hc, hrest⟩⟩

theorem ascii_of_compose {cs : List Char} (h : ∀ c ∈ compose cs, IsAsciiChar c) : ∀ c ∈ cs, IsAsciiChar c := by
  induction cs with
  | nil => exact fun c hc => absurd hc List.not_mem_nil
  | cons c rest ih =>
    rw [compose] at h
    split at h
    · obtain ⟨hc, -, hrest⟩ := ascii_of_composeAfter h
      exact List.forall_mem_cons.mpr ⟨hc, hrest⟩
    · obtain ⟨hc, hrest⟩ := List.forall_mem_cons.mp h
      exact List.forall_mem_cons.mpr ⟨hc, ih hrest⟩

theorem mem_insertMark {c d : Char} {cs : List Char} : d ∈ insertMark c cs ↔ d = c ∨ d ∈ cs := by
  induction cs with
  | nil => simp [insertMark]
  | cons first rest ih =>
    rw [insertMark]
    split
    · rw [List.mem_cons, ih, List.mem_cons]
      exact or_left_comm
    · exact List.mem_cons

theorem mem_orderMarks {c : Char} {cs : List Char} : c ∈ orderMarks cs ↔ c ∈ cs := by
  induction cs with
  | nil => exact Iff.rfl
  | cons first rest ih =>
    show c ∈ insertMark first (orderMarks rest) ↔ _
    rw [mem_insertMark, ih, List.mem_cons]

theorem ascii_of_decompose {c : Char} (h : ∀ d ∈ decompose c, IsAsciiChar d) :
    IsAsciiChar c ∨ ∃ d, decompose c = [d] ∧ isAliased d.toNat = true := by
  unfold decompose at h ⊢
  split at h
  · exact .inl (h c (List.mem_singleton_self c))
  · rename_i hhigh
    rw [if_neg hhigh]
    split at h
    · rename_i hsyllable
      have hfirst : IsAsciiChar (Char.ofNat (0x1100 + (c.toNat - 0xAC00) / 588)) := by
        refine h _ (List.mem_map_of_mem ?_)
        unfold hangulParts
        dsimp only
        split
        · exact List.mem_cons_self
        · exact List.mem_append_left _ List.mem_cons_self
      refine absurd hfirst (not_ascii_of_isOutside ?_)
      rw [isHangulSyllable, Bool.and_eq_true, decide_eq_true_eq, decide_eq_true_eq] at hsyllable
      rw [isOutside, Bool.and_eq_true, Bool.or_eq_true, Nat.ble_eq, Nat.blt_eq]
      exact ⟨by omega, .inl (by omega)⟩
    · rename_i hsyllable
      rw [if_neg hsyllable]
      split at h
      · rename_i parts hparts
        obtain ⟨before, behind, hentry, -⟩ := List.lookup_eq_some_iff.mp hparts
        have hmem : (c.toNat, parts) ∈ decompositions := by rw [hentry]; simp
        obtain ⟨n, hn, houtside⟩ := List.any_eq_true.mp (List.all_eq_true.mp isOutside_decompositions _ hmem)
        exact absurd (h _ (List.mem_map_of_mem hn)) (not_ascii_of_isOutside houtside)
      · rename_i hnone
        split at h
        · rename_i n hn
          obtain ⟨before, behind, hentry, -⟩ := List.lookup_eq_some_iff.mp hn
          have hmem : (c.toNat, n) ∈ singletons := by rw [hentry]; simp
          have hcases := List.all_eq_true.mp isOutside_singletons _ hmem
          rw [Bool.or_eq_true] at hcases
          rcases hcases with houtside | haliased
          · exact absurd (h _ (List.mem_singleton_self _)) (not_ascii_of_isOutside houtside)
          · refine .inr ⟨Char.ofNat n, rfl, ?_⟩
            simp only [isAliased, Bool.or_eq_true, beq_iff_eq] at haliased
            rcases haliased with (rfl | rfl) | rfl <;> rfl
        · exact .inl (h c (List.mem_singleton_self c))

/-- An ASCII text that no other character stands for is the Normalization Form C of itself only. -/
theorem eq_of_nfc_eq {cs ds : List Char} (hds : ∀ d ∈ ds, IsAsciiChar d ∧ isAliased d.toNat = false)
    (h : nfc cs = ds) : cs = ds := by
  have hdecomposed : ∀ c ∈ cs.flatMap decompose, IsAsciiChar c := by
    have hordered : ∀ c ∈ orderMarks (cs.flatMap decompose), IsAsciiChar c :=
      ascii_of_compose fun d hd => (hds d (h ▸ hd)).1
    exact fun c hc => hordered c (mem_orderMarks.mpr hc)
  -- the text is not changed by any step, once it is known to be in ASCII
  have hsame : cs.flatMap decompose = ds := by
    rw [nfc, orderMarks_ascii hdecomposed] at h
    cases hcs : cs.flatMap decompose with
    | nil => rw [hcs] at h; exact h
    | cons c rest =>
      rw [hcs] at h hdecomposed
      obtain ⟨hc, hrest⟩ := List.forall_mem_cons.mp hdecomposed
      rw [compose, if_pos (combiningClass_ascii hc), composeAfter_ascii hrest] at h
      exact h
  have hascii : ∀ c ∈ cs, IsAsciiChar c := by
    intro c hc
    have hparts : ∀ d ∈ decompose c, d ∈ ds := fun d hd => hsame ▸ List.mem_flatMap.mpr ⟨c, hc, hd⟩
    rcases ascii_of_decompose fun d hd => (hds d (hparts d hd)).1 with hc | ⟨d, hd, haliased⟩
    · exact hc
    · have hmem : d ∈ ds := hparts d (hd ▸ List.mem_singleton_self d)
      cases haliased.symm.trans (hds d hmem).2
  exact (flatMap_decompose_ascii hascii).symm.trans hsame

/-! Opaque strings. -/

/-- The visible characters of ASCII and the space. -/
def IsPrintable (c : Char) : Prop :=
  0x20 ≤ c.toNat ∧ c.toNat < 0x7F

instance (c : Char) : Decidable (IsPrintable c) :=
  inferInstanceAs (Decidable (0x20 ≤ c.toNat ∧ c.toNat < 0x7F))

theorem IsPrintable.isAsciiChar {c : Char} (h : IsPrintable c) : IsAsciiChar c :=
  Nat.lt_trans h.2 (by decide)

theorem isSpaceSeparator_ascii {c : Char} (h : IsAsciiChar c) (hspace : isSpaceSeparator c = true) : c = ' ' := by
  unfold IsAsciiChar at h
  have hn : c.toNat = 0x20 := by
    simp only [isSpaceSeparator, spaceRanges, inRanges, Bool.and_eq_true, Bool.or_eq_true, decide_eq_true_eq]
      at hspace
    omega
  rw [← Char.ofNat_toNat c, hn]

theorem opaqueForm_ascii {cs : List Char} (h : ∀ c ∈ cs, IsAsciiChar c) : opaqueForm cs = cs := by
  have hspaces : (cs.map fun c => if isSpaceSeparator c then ' ' else c) = cs := by
    refine (List.map_congr_left fun c hc => ?_).trans (List.map_id cs)
    split
    · rename_i hspace
      exact (isSpaceSeparator_ascii (h c hc) hspace).symm
    · rfl
  rw [opaqueForm, hspaces, nfc_ascii h]

theorem firstDisallowed?_printable {before cs : List Char} (h : ∀ c ∈ cs, IsPrintable c) :
    firstDisallowed? before cs = none := by
  induction cs generalizing before with
  | nil => rfl
  | cons c rest ih =>
    obtain ⟨hc, hrest⟩ := List.forall_mem_cons.mp h
    have hallowed : disallowance? before c rest = none := by
      have hvisible : 0x20 ≤ c.toNat ∧ c.toNat < 0x7F := hc
      rw [disallowance?, if_pos hvisible]
    rw [firstDisallowed?, hallowed]
    exact ih hrest

/-- A printable ASCII text is its own opaque form. -/
theorem enforceOpaque_printable {cs : List Char} (h : ∀ c ∈ cs, IsPrintable c) (hne : cs ≠ []) :
    enforceOpaque cs = .ok cs := by
  have hform := opaqueForm_ascii fun c hc => (h c hc).isAsciiChar
  have hempty : cs.isEmpty = false := List.isEmpty_eq_false_iff.mpr hne
  unfold enforceOpaque
  simp only [hform, hempty, firstDisallowed?_printable h]
  rfl

/-- A text in ASCII without spaces, that no other character stands for, is the opaque form of itself only. -/
theorem eq_of_enforceOpaque {cs ds : List Char}
    (hds : ∀ d ∈ ds, IsAsciiChar d ∧ isAliased d.toNat = false ∧ d ≠ ' ') (h : enforceOpaque cs = .ok ds) :
    cs = ds := by
  have hform : opaqueForm cs = ds := by
    unfold enforceOpaque at h
    dsimp only at h
    split at h
    · exact nomatch h
    · split at h
      · exact nomatch h
      · exact Except.ok.inj h
  have hmapped : (cs.map fun c => if isSpaceSeparator c then ' ' else c) = ds :=
    eq_of_nfc_eq (fun d hd => ⟨(hds d hd).1, (hds d hd).2.1⟩) hform
  refine Eq.trans (List.map_id cs).symm ((List.map_congr_left fun c hc => ?_).trans hmapped)
  have hmem : (if isSpaceSeparator c then ' ' else c) ∈ ds :=
    hmapped ▸ List.mem_map_of_mem (f := fun c => if isSpaceSeparator c then ' ' else c) hc
  split
  · rename_i hspace
    rw [if_pos hspace] at hmem
    exact absurd rfl (hds _ hmem).2.2
  · rfl

end Scim.Text
