import Scim.Text.Lowercase

/-!
Lower-casing is idempotent: a character of a lower-case form has no other form of its own.
-/

namespace Scim.Text

/-! Runs of letters and their forms. -/

namespace CaseRun

/-- Whether a code point is a letter of the run. -/
def has (run : CaseRun) (n : Nat) : Bool :=
  run.first ≤ n && n ≤ run.last && (n - run.first) % run.step = 0

/-- The letters of a run. -/
def letters (run : CaseRun) : List Nat :=
  (List.range ((run.last - run.first) / run.step + 1)).map fun k => run.first + k * run.step

/-- The lower-case form of a letter of a run. -/
def form (run : CaseRun) (n : Nat) : Nat :=
  (n + run.distance).toNat

/-- The forms of the first run lie outside the second, or between its letters. -/
def misses (run other : CaseRun) : Bool :=
  Nat.blt (run.form run.last) other.first || Nat.blt other.last (run.form run.first) ||
    (run.step % other.step == 0 || run.first == run.last) &&
      run.form run.first % other.step != other.first % other.step

variable {run other : CaseRun} {n : Nat}

theorem has_iff : run.has n = true ↔ run.first ≤ n ∧ n ≤ run.last ∧ run.step ∣ n - run.first := by
  simp only [has, Bool.and_eq_true, decide_eq_true_eq, Nat.dvd_iff_mod_eq_zero, and_assoc]

theorem mem_letters (h : run.has n = true) : n ∈ run.letters := by
  obtain ⟨hfirst, hlast, hstep⟩ := has_iff.mp h
  refine List.mem_map.mpr ⟨(n - run.first) / run.step, List.mem_range.mpr ?_, ?_⟩
  · exact Nat.lt_succ_of_le (Nat.div_le_div_right (by omega))
  · rw [Nat.div_mul_cancel hstep]
    omega

theorem not_has_form (h : run.misses other = true) (hn : run.has n = true)
    (hfirst : 0 < run.form run.first) : other.has (run.form n) = false := by
  obtain ⟨hle, hlast, hstep⟩ := has_iff.mp hn
  simp only [form] at hfirst
  have hform : run.form n = run.form run.first + (n - run.first) := by simp only [form]; omega
  have hformLast : run.form n ≤ run.form run.last := by simp only [form]; omega
  refine Bool.eq_false_iff.mpr fun hhas => ?_
  obtain ⟨hle', hlast', hstep'⟩ := has_iff.mp hhas
  simp only [misses, Bool.or_eq_true, Bool.and_eq_true, Nat.blt_eq, beq_iff_eq, bne_iff_ne] at h
  rcases h with (h | h) | ⟨hsteps, h⟩
  · omega
  · omega
  · -- in steps of the second run, the form is where that of the first letter is
    have hdvd : other.step ∣ n - run.first := by
      rcases hsteps with hsteps | hsingle
      · exact Nat.dvd_trans (Nat.dvd_of_mod_eq_zero hsteps) hstep
      · rw [show n - run.first = 0 by omega]
        exact Nat.dvd_zero _
    obtain ⟨k, hk⟩ := hdvd
    obtain ⟨l, hl⟩ := hstep'
    have hsame : run.form n % other.step = run.form run.first % other.step := by
      rw [hform, hk, Nat.add_mul_mod_self_left]
    have hother : run.form n % other.step = other.first % other.step := by
      rw [show run.form n = other.first + other.step * l by omega, Nat.add_mul_mod_self_left]
    exact h (hsame.symm.trans hother)

end CaseRun

theorem runs_miss : ∀ run ∈ lowercaseRuns, ∀ other ∈ lowercaseRuns, run.misses other = true := by
  have hall : (lowercaseRuns.all fun run => lowercaseRuns.all run.misses) = true := by decide +kernel
  exact fun run hrun => List.all_eq_true.mp (List.all_eq_true.mp hall run hrun)

/-- A code point of a character without a rule of its own; below U+0080 that is an ASCII letter in lower
case. -/
def isPlainForm (n : Nat) : Bool :=
  n != 0x130 && n != 0x3A3 && (Nat.blt n 0xD800 || Nat.blt 0xDFFF n && Nat.blt n 0x110000) &&
    (Nat.blt 0x7F n || n == 0x6B)

theorem isPlainForm_of_letter : ∀ run ∈ lowercaseRuns, ∀ n ∈ run.letters, isPlainForm (run.form n) = true := by
  have hall : (lowercaseRuns.all fun run => run.letters.all fun n => isPlainForm (run.form n)) = true := by
    decide +kernel
  exact fun run hrun => List.all_eq_true.mp (List.all_eq_true.mp hall run hrun)

/-! Characters. -/

/-- A character that lower-casing leaves as it is, wherever it stands. -/
def isSettled (c : Char) : Bool :=
  c.toNat ≠ 0x130 && c ≠ 'Σ' && lowerChar c = c

theorem isSettled_of_no_run {c : Char} (hdotted : c.toNat ≠ 0x130) (hsigma : c ≠ 'Σ')
    (hascii : ¬ c.val < 128) (hrun : ∀ run ∈ lowercaseRuns, run.has c.toNat = false) :
    isSettled c = true := by
  have hnone : (lowercaseRuns.find? fun run => run.has c.toNat) = none := by
    refine List.find?_eq_none.mpr fun run h => ?_
    rw [hrun run h]
    exact Bool.false_ne_true
  have hsame : lowerChar c = c := by
    unfold CaseRun.has at hnone
    rw [lowerChar, if_neg hascii, hnone]
  simp [isSettled, hdotted, hsigma, hsame]

theorem isSettled_toLower : ∀ n < 128, isSettled (Char.ofNat n).toLower = true := by
  decide

theorem form_first_pos {run : CaseRun} (hrun : run ∈ lowercaseRuns) {n : Nat} (hn : run.has n = true) :
    0 < run.form run.first := by
  obtain ⟨hfirst, hlast, -⟩ := CaseRun.has_iff.mp hn
  have hself : run.has run.first = true :=
    CaseRun.has_iff.mpr ⟨Nat.le_refl _, Nat.le_trans hfirst hlast, by rw [Nat.sub_self]; exact Nat.dvd_zero _⟩
  have hplain := isPlainForm_of_letter run hrun run.first (CaseRun.mem_letters hself)
  simp only [isPlainForm, Bool.and_eq_true, Bool.or_eq_true, beq_iff_eq, Nat.blt_eq] at hplain
  omega

-- The form of a letter is in no run.
theorem isSettled_form {run : CaseRun} (hrun : run ∈ lowercaseRuns) {n : Nat} (hn : run.has n = true) :
    isSettled (Char.ofNat (run.form n)) = true := by
  have hplain := isPlainForm_of_letter run hrun n (CaseRun.mem_letters hn)
  simp only [isPlainForm, Bool.and_eq_true, Bool.or_eq_true, bne_iff_ne, beq_iff_eq, Nat.blt_eq] at hplain
  obtain ⟨⟨⟨hdotted, hsigma⟩, hvalid⟩, hascii | hk⟩ := hplain
  · have hcode : (Char.ofNat (run.form n)).toNat = run.form n := by
      rw [Char.ofNat, dif_pos hvalid]
      rfl
    have hsigma' : Char.ofNat (run.form n) ≠ 'Σ' := by
      intro heq
      rw [heq] at hcode
      exact hsigma hcode.symm
    refine isSettled_of_no_run (by rwa [hcode]) hsigma' ?_ fun other hother => ?_
    · rw [UInt32.lt_iff_toNat_lt]
      show ¬ (Char.ofNat (run.form n)).toNat < 128
      omega
    · rw [hcode]
      exact CaseRun.not_has_form (runs_miss run hrun other hother) hn (form_first_pos hrun hn)
  · rw [hk]
    decide

theorem isSettled_lowerChar {c : Char} (hdotted : c.toNat ≠ 0x130) (hsigma : c ≠ 'Σ') :
    isSettled (lowerChar c) = true := by
  unfold lowerChar
  split
  · rename_i hascii
    have hsettled := isSettled_toLower c.toNat (UInt32.lt_iff_toNat_lt.mp hascii)
    rwa [Char.ofNat_toNat] at hsettled
  · rename_i hascii
    split
    · rename_i run hrun
      have hhas : run.has c.toNat = true := List.find?_some (p := fun run : CaseRun => run.has c.toNat) hrun
      exact isSettled_form (List.mem_of_find?_eq_some hrun) hhas
    · rename_i hnone
      refine isSettled_of_no_run hdotted hsigma hascii fun run hrun => ?_
      exact Bool.eq_false_iff.mpr (List.find?_eq_none.mp hnone run hrun)

theorem isSettled_lowerFrom (before cs : List Char) : ∀ c ∈ lowerFrom before cs, isSettled c = true := by
  induction cs generalizing before with
  | nil => exact fun c hc => absurd hc List.not_mem_nil
  | cons d rest ih =>
    intro c hc
    rw [lowerFrom] at hc
    rcases List.mem_append.mp hc with hc | hc
    · split at hc
      · rcases List.mem_cons.mp hc with rfl | hc
        · decide
        · obtain rfl := List.mem_singleton.mp hc
          decide
      · rename_i hdotted
        split at hc
        · obtain rfl := List.mem_singleton.mp hc
          split <;> decide
        · rename_i hsigma
          obtain rfl := List.mem_singleton.mp hc
          exact isSettled_lowerChar hdotted hsigma
    · exact ih _ c hc

theorem lowerFrom_of_settled {cs : List Char} (before : List Char) (h : ∀ c ∈ cs, isSettled c = true) :
    lowerFrom before cs = cs := by
  induction cs generalizing before with
  | nil => rfl
  | cons c rest ih =>
    have hc := h c List.mem_cons_self
    simp only [isSettled, Bool.and_eq_true, decide_eq_true_eq] at hc
    obtain ⟨⟨hdotted, hsigma⟩, hsame⟩ := hc
    rw [lowerFrom, ih _ fun d hd => h d (List.mem_cons_of_mem _ hd)]
    simp only [if_neg hdotted, if_neg hsigma, hsame]
    rfl

-- Of the forms of other characters, only `k` is in ASCII.
theorem ascii_of_lowerChar {c : Char} (hascii : (lowerChar c).val < 128) (hk : lowerChar c ≠ 'k') :
    c.val < 128 ∧ c.toLower = lowerChar c := by
  by_cases hc : c.val < 128
  · rw [lowerChar, if_pos hc]
    exact ⟨hc, rfl⟩
  · rw [lowerChar, if_neg hc] at hascii hk
    split at hascii
    · rename_i run hrun
      have hhas : run.has c.toNat = true := List.find?_some (p := fun run : CaseRun => run.has c.toNat) hrun
      have hplain := isPlainForm_of_letter run (List.mem_of_find?_eq_some hrun) c.toNat (CaseRun.mem_letters hhas)
      simp only [isPlainForm, Bool.and_eq_true, Bool.or_eq_true, bne_iff_ne, beq_iff_eq, Nat.blt_eq] at hplain
      obtain ⟨⟨-, hvalid⟩, hform⟩ := hplain
      have hcode : (Char.ofNat (run.form c.toNat)).toNat = run.form c.toNat := by
        rw [Char.ofNat, dif_pos hvalid]
        rfl
      have hsmall : (Char.ofNat (run.form c.toNat)).toNat < 128 := UInt32.lt_iff_toNat_lt.mp hascii
      have hletter : run.form c.toNat = 0x6B := by omega
      rw [hrun] at hk
      refine absurd ?_ hk
      show Char.ofNat (run.form c.toNat) = 'k'
      rw [hletter]
    · exact absurd hascii hc

/-- A text whose lower-case form is in ASCII, and has no `k`, is in ASCII itself. -/
theorem ascii_of_lowerFrom {before cs form : List Char} (h : lowerFrom before cs = form)
    (hform : ∀ c ∈ form, c.val < 128 ∧ c ≠ 'k') :
    (∀ c ∈ cs, c.val < 128) ∧ cs.map Char.toLower = form := by
  induction cs generalizing before form with
  | nil => exact ⟨nofun, h⟩
  | cons c rest ih =>
    rw [lowerFrom] at h
    subst h
    obtain ⟨hfirst, hrest⟩ := List.forall_mem_append.mp hform
    obtain ⟨hall, hmap⟩ := ih rfl hrest
    by_cases hdotted : c.toNat = 0x130
    · rw [if_pos hdotted] at hfirst
      exact absurd (hfirst '\u0307' (by decide)).1 (by decide)
    · rw [if_neg hdotted] at hfirst ⊢
      by_cases hsigma : c = 'Σ'
      · rw [if_pos hsigma] at hfirst
        have hlow := (hfirst _ List.mem_cons_self).1
        split at hlow <;> exact absurd hlow (by decide)
      · rw [if_neg hsigma] at hfirst ⊢
        obtain ⟨hascii, hk⟩ := hfirst _ List.mem_cons_self
        obtain ⟨hc, hlower⟩ := ascii_of_lowerChar hascii hk
        refine ⟨List.forall_mem_cons.mpr ⟨hc, hall⟩, ?_⟩
        rw [List.map_cons, hlower, hmap]
        rfl

/-- A lower-case form is its own lower-case form. -/
theorem lower_lower (s : String) : lower (lower s) = lower s := by
  unfold lower lowerChars
  rw [String.toList_ofList, lowerFrom_of_settled [] (isSettled_lowerFrom [] s.toList)]

-- Every character has a form.
theorem lower_eq_empty {s : String} (h : lower s = "") : s = "" := by
  have hchars : lowerFrom [] s.toList = [] := by
    have htoList := congrArg String.toList h
    rwa [lower, String.toList_ofList] at htoList
  cases hs : s.toList with
  | nil => exact String.toList_inj.mp hs
  | cons c rest =>
    rw [hs, lowerFrom] at hchars
    have hform := (List.append_eq_nil_iff.mp hchars).1
    split at hform
    · cases hform
    · split at hform <;> cases hform

end Scim.Text
