import Scim.Proofs.Binary64.Rounding
import Scim.Proofs.Text.Number

/-!
Finite numbers are read back from their text.  Neither of the two notations changes the value of the
digits.
-/

namespace Scim.Binary64

-- `^` is the power of the core library, whatever else is in scope.
attribute [local instance (high)] instPowNat

open Scim.Text (NumberText IsDigits IsSignificant natOfDigits isDigits_zero isSignificant_toDigits)

/-- A number that is no integer and whose value is `digits * 10 ^ exponent`, but for zeros at the end of
its digits. -/
structure Denotes (n : NumberText) (digits : Nat) (exponent : Int) : Prop where
  wellFormed : n.WellFormed
  notWhole : n.isWhole = false
  value : ∃ zeros : Nat, natOfDigits (n.whole ++ n.fraction) = digits * 10 ^ zeros ∧
    n.exponentValue - n.fraction.length + zeros = exponent

-- Significant digits are such digits again with zeros behind them.
theorem exists_stripZeros {cs : List Char} (h : IsSignificant cs) :
    ∃ zeros, cs = stripZeros cs ++ List.replicate zeros '0' ∧ IsSignificant (stripZeros cs) := by
  have hzeros : cs.reverse.takeWhile (· = '0') =
      List.replicate (cs.reverse.takeWhile (· = '0')).length '0' := by
    rw [List.eq_replicate_iff]
    exact ⟨rfl, fun c hc => of_decide_eq_true (List.all_eq_true.mp List.all_takeWhile c hc)⟩
  have hsplit : cs = stripZeros cs ++ List.replicate (cs.reverse.takeWhile (· = '0')).length '0' := by
    rw [stripZeros, ← List.reverse_replicate, ← hzeros, ← List.reverse_append,
      List.takeWhile_append_dropWhile, List.reverse_reverse]
  refine ⟨_, hsplit, ?_⟩
  obtain ⟨c, rest, heq, hc, hrest⟩ := h
  cases hstrip : stripZeros cs with
  | nil =>
    -- nothing but zeros
    rw [hstrip, List.nil_append, heq] at hsplit
    have hmem : c ∈ List.replicate (cs.reverse.takeWhile (· = '0')).length '0' :=
      heq ▸ hsplit ▸ List.mem_cons_self
    rw [(List.mem_replicate.mp hmem).2] at hc
    exact absurd hc.1 (by decide)
  | cons d more =>
    rw [hstrip, heq, List.cons_append] at hsplit
    obtain ⟨rfl, hmore⟩ := List.cons.inj hsplit
    exact ⟨c, more, rfl, hc, fun e he => hrest e (hmore ▸ List.mem_append_left _ he)⟩

/-! The two notations. -/

-- Zeros at the end of the digits belong to the exponent as well.
theorem Denotes.of_mul_ten_pow {n : NumberText} {digits zeros : Nat} {exponent : Int}
    (h : Denotes n (digits * 10 ^ zeros) exponent) : Denotes n digits (exponent + zeros) := by
  obtain ⟨more, hdigits, hexponent⟩ := h.value
  refine ⟨h.wellFormed, h.notWhole, zeros + more, ?_, by omega⟩
  rw [hdigits, Nat.pow_add, Nat.mul_assoc]

theorem denotes_fraction {whole fraction : List Char} (hwhole : whole = ['0'] ∨ IsSignificant whole)
    (hfraction : IsDigits fraction) (hne : fraction ≠ []) (negative : Bool) :
    Denotes ⟨negative, whole, fraction, none⟩ (natOfDigits (whole ++ fraction)) (-fraction.length) := by
  refine ⟨⟨hwhole, hfraction, fun _ _ h => nomatch h⟩, ?_, 0, (Nat.mul_one _).symm, ?_⟩
  · rw [NumberText.isWhole, List.isEmpty_eq_false_iff.mpr hne, Bool.false_and]
  · show (0 : Int) - fraction.length + (0 : Nat) = -fraction.length
    omega

theorem spell_fraction {whole fraction : List Char} (hne : fraction ≠ []) (negative : Bool) :
    NumberText.spell ⟨negative, whole, fraction, none⟩ =
      (if negative then ['-'] else []) ++ (whole ++ '.' :: fraction) := by
  simp only [NumberText.spell, NumberText.spellFraction, NumberText.spellExponent, if_neg hne,
    List.append_nil, List.append_assoc]

/-! The plain notation, by the place of the point: in front of the digits, behind them, or between. -/

section Plain

variable {cs : List Char} (h : IsSignificant cs) (negative : Bool) {exponent : Int}
include h

theorem denotes_pointBefore (hneg : exponent < 0) :
    Denotes ⟨negative, ['0'], List.replicate (exponent.natAbs - 1) '0' ++ cs, none⟩ (natOfDigits cs)
      (exponent + 1 - cs.length) := by
  have hfraction : IsDigits (List.replicate (exponent.natAbs - 1) '0' ++ cs) :=
    Text.isDigits_append (Text.isDigits_zeros _) h.isDigits
  have hdenotes := denotes_fraction (.inl rfl) hfraction
    (List.append_ne_nil_of_right_ne_nil _ h.ne_nil) negative
  have hvalue : natOfDigits (['0'] ++ (List.replicate (exponent.natAbs - 1) '0' ++ cs)) = natOfDigits cs := by
    rw [← List.append_assoc]
    exact Text.natOfDigits_zeros_append (exponent.natAbs - 1 + 1) cs
  have hplaces : -((List.replicate (exponent.natAbs - 1) '0' ++ cs).length : Int) =
      exponent + 1 - cs.length := by
    rw [List.length_append, List.length_replicate]
    omega
  rwa [hvalue, hplaces] at hdenotes

theorem denotes_pointBehind (hnonneg : ¬ exponent < 0) (hlength : cs.length ≤ exponent.toNat + 1) :
    Denotes ⟨negative, cs ++ List.replicate (exponent.toNat + 1 - cs.length) '0', ['0'], none⟩
      (natOfDigits cs) (exponent + 1 - cs.length) := by
  have hdenotes := denotes_fraction
    (.inr (h.append (Text.isDigits_zeros (exponent.toNat + 1 - cs.length)))) isDigits_zero
    (List.cons_ne_nil _ _) negative
  have hvalue : natOfDigits (cs ++ List.replicate (exponent.toNat + 1 - cs.length) '0' ++ ['0']) =
      natOfDigits cs * 10 ^ (exponent.toNat + 1 - cs.length + 1) := by
    rw [List.append_assoc, ← List.replicate_succ', Text.natOfDigits_append_zeros]
  have hplaces : -((['0'].length : Nat) : Int) + ((exponent.toNat + 1 - cs.length + 1 : Nat) : Int) =
      exponent + 1 - cs.length := by
    rw [List.length_singleton]
    omega
  rw [hvalue] at hdenotes
  exact hplaces ▸ hdenotes.of_mul_ten_pow

theorem denotes_pointInside (hnonneg : ¬ exponent < 0) (hlength : ¬ cs.length ≤ exponent.toNat + 1) :
    Denotes ⟨negative, cs.take (exponent.toNat + 1), cs.drop (exponent.toNat + 1), none⟩
      (natOfDigits cs) (exponent + 1 - cs.length) := by
  have hdrop : cs.drop (exponent.toNat + 1) ≠ [] := by
    rw [Ne, List.drop_eq_nil_iff]
    exact hlength
  have hdenotes := denotes_fraction (.inr (h.take exponent.toNat))
    (fun c hc => h.isDigits c (List.mem_of_mem_drop hc)) hdrop negative
  have hplaces : -((cs.drop (exponent.toNat + 1)).length : Int) = exponent + 1 - cs.length := by
    rw [List.length_drop]
    omega
  rwa [List.take_append_drop, hplaces] at hdenotes

theorem exists_plain (exponent : Int) :
    ∃ n : NumberText, Denotes n (natOfDigits cs) (exponent + 1 - cs.length) ∧ n.negative = negative ∧
      n.spell = (if negative then ['-'] else []) ++ plain cs exponent := by
  unfold plain
  by_cases hneg : exponent < 0
  · refine ⟨_, denotes_pointBefore h negative hneg, rfl, ?_⟩
    rw [spell_fraction (List.append_ne_nil_of_right_ne_nil _ h.ne_nil), if_pos hneg]
    rfl
  · rw [if_neg hneg]
    by_cases hlength : cs.length ≤ exponent.toNat + 1
    · refine ⟨_, denotes_pointBehind h negative hneg hlength, rfl, ?_⟩
      rw [spell_fraction (List.cons_ne_nil _ _), if_pos hlength, List.append_assoc]
    · refine ⟨_, denotes_pointInside h negative hneg hlength, rfl, ?_⟩
      have hdrop : cs.drop (exponent.toNat + 1) ≠ [] := fun hnil => hlength (List.drop_eq_nil_iff.mp hnil)
      rw [spell_fraction hdrop, if_neg hlength]

end Plain

/-- The digits of an exponent; there are at least two. -/
def exponentDigits (size : List Char) : List Char :=
  if size.length < 2 then '0' :: size else size

theorem natOfDigits_exponentDigits (size : List Char) :
    natOfDigits (exponentDigits size) = natOfDigits size := by
  unfold exponentDigits
  split
  · exact Text.natOfDigits_zeros_append 1 size
  · rfl

theorem isDigits_exponentDigits {size : List Char} (h : IsDigits size) : IsDigits (exponentDigits size) := by
  unfold exponentDigits
  split
  · exact Text.isDigits_append (Text.isDigits_zeros 1) h
  · exact h

theorem exponentDigits_ne_nil {size : List Char} (h : size ≠ []) : exponentDigits size ≠ [] := by
  unfold exponentDigits
  split
  · exact List.cons_ne_nil _ _
  · exact h

theorem exists_scientific {cs : List Char} (h : IsSignificant cs) (negative : Bool) (exponent : Int) :
    ∃ n : NumberText, Denotes n (natOfDigits cs) (exponent + 1 - cs.length) ∧ n.negative = negative ∧
      n.spell = (if negative then ['-'] else []) ++ scientific cs exponent := by
  obtain ⟨c, rest, rfl, hc, hrest⟩ := h
  let size := exponentDigits (Nat.toDigits 10 exponent.natAbs)
  refine ⟨⟨negative, [c], rest, some (decide (exponent < 0), size)⟩, ⟨⟨?_, hrest, ?_⟩, ?_, 0, ?_, ?_⟩,
    rfl, ?_⟩
  · exact .inr ⟨c, [], rfl, hc, fun _ h => absurd h List.not_mem_nil⟩
  · rintro sign digits hexponent
    obtain ⟨-, rfl⟩ := Prod.mk.inj (Option.some.inj hexponent)
    exact ⟨isDigits_exponentDigits (Text.isDigits_toDigits _), exponentDigits_ne_nil Nat.toDigits_ne_nil⟩
  · exact Bool.and_false _
  · rw [Nat.pow_zero, Nat.mul_one]
    rfl
  · have hsize : natOfDigits size = exponent.natAbs := by
      rw [natOfDigits_exponentDigits, Text.natOfDigits_toDigits]
    simp only [NumberText.exponentValue, hsize, decide_eq_true_eq, List.length_cons]
    split <;> omega
  · have hsign : (if decide (exponent < 0) = true then '-' else '+') = if exponent < 0 then '-' else '+' := by
      simp only [decide_eq_true_eq]
    cases rest with
    | nil =>
      simp only [NumberText.spell, NumberText.spellFraction, NumberText.spellExponent, scientific, if_true,
        hsign, List.append_assoc, List.cons_append, List.nil_append]
      rfl
    | cons d more =>
      simp only [NumberText.spell, NumberText.spellFraction, NumberText.spellExponent, scientific,
        if_neg (List.cons_ne_nil d more), hsign, List.append_assoc, List.cons_append, List.nil_append]
      rfl

theorem exists_decimalText (format : NumberFormat) {value units : Nat} {scale : Int}
    (hreads : decimalUnits? value scale = some units) (hunits : units ≠ 0) (h : Representable units)
    (negative : Bool) :
    ∃ n : NumberText, n.WellFormed ∧ n.isWhole = false ∧ n.toBinary64 = .finite negative units h ∧
      n.spell = (if negative then ['-'] else []) ++ decimalText format value scale := by
  have hvalue : value ≠ 0 := by
    rintro rfl
    rw [decimalUnits?_zero] at hreads
    exact hunits (Option.some.inj hreads).symm
  obtain ⟨zeros, hstrip, hsignificant⟩ := exists_stripZeros (isSignificant_toDigits hvalue)
  obtain ⟨n, hdenotes, hnegative, hspell⟩ : ∃ n : NumberText,
      Denotes n (natOfDigits (stripZeros (Nat.toDigits 10 value)))
        (scale + (Nat.toDigits 10 value).length - 1 + 1 - (stripZeros (Nat.toDigits 10 value)).length) ∧
      n.negative = negative ∧
      n.spell = (if negative then ['-'] else []) ++ decimalText format value scale := by
    unfold decimalText
    by_cases hplain : format.leastPlain ≤ scale + (Nat.toDigits 10 value).length - 1 ∧
        scale + (Nat.toDigits 10 value).length - 1 ≤ format.greatestPlain
    · simp only [if_pos hplain]
      exact exists_plain hsignificant negative _
    · simp only [if_neg hplain]
      exact exists_scientific hsignificant negative _
  refine ⟨n, hdenotes.wellFormed, hdenotes.notWhole, ?_, hspell⟩
  -- the zeros that were stripped and those of the notation both count as exponent
  have hall := congrArg natOfDigits hstrip
  rw [Text.natOfDigits_toDigits, Text.natOfDigits_append_zeros] at hall
  have hlength := congrArg List.length hstrip
  rw [List.length_append, List.length_replicate] at hlength
  have hdigits : natOfDigits (stripZeros (Nat.toDigits 10 value)) ≠ 0 := by
    intro hzero
    rw [hzero, Nat.zero_mul] at hall
    exact hvalue hall
  obtain ⟨more, hnumber, hexponent⟩ := hdenotes.value
  rw [hall, decimalUnits?_mul_ten_pow hdigits] at hreads
  rw [NumberText.toBinary64, hnegative, hnumber]
  apply ofDecimal_eq_finite
  rw [decimalUnits?_mul_ten_pow hdigits, hexponent, ← hreads]
  congr 1
  omega

/-- The text of a magnitude, with its sign, is a number of that magnitude. -/
theorem exists_magnitudeText (format : NumberFormat) {units : Nat} (h : Representable units)
    (negative : Bool) :
    ∃ n : NumberText, n.WellFormed ∧ n.isWhole = false ∧ n.toBinary64 = .finite negative units h ∧
      n.spell = (if negative then ['-'] else []) ++ magnitudeText format units := by
  unfold magnitudeText
  by_cases hzero : units = 0
  · subst hzero
    have hdenotes := denotes_fraction (.inl rfl) isDigits_zero (List.cons_ne_nil _ _) negative
    refine ⟨_, hdenotes.wellFormed, hdenotes.notWhole, ?_, ?_⟩
    · exact ofDecimal_eq_finite (decimalUnits?_zero _) h negative
    · exact spell_fraction (List.cons_ne_nil _ _) negative
  · rw [if_neg hzero]
    exact exists_decimalText format (shortest_readsBack hzero h) hzero h negative

end Scim.Binary64
