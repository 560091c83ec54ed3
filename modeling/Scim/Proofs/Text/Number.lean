import Scim.Text.Number

/-!
Numbers are read back from their spelling, and what the digits of a text amount to.
-/

namespace Scim.Text

-- `^` is the power of the core library, whatever else is in scope.
attribute [local instance (high)] instPowNat

/-- Whether a text consists of the digits `0` to `9`. -/
def IsDigits (cs : List Char) : Prop :=
  ∀ c ∈ cs, c.isDigit = true

theorem isDigits_append {cs ds : List Char} (hcs : IsDigits cs) (hds : IsDigits ds) :
    IsDigits (cs ++ ds) := by
  intro c hc
  rcases List.mem_append.mp hc with hc | hc
  · exact hcs c hc
  · exact hds c hc

theorem isDigits_zeros (count : Nat) : IsDigits (List.replicate count '0') := by
  intro c hc
  rw [(List.mem_replicate.mp hc).2]
  rfl

theorem isDigits_zero : IsDigits ['0'] :=
  isDigits_zeros 1

theorem isDigits_toDigits (n : Nat) : IsDigits (Nat.toDigits 10 n) :=
  fun _ hc => Nat.isDigit_of_mem_toDigits (by decide) (by decide) hc

/-- Digits that start with another one than zero. -/
def IsSignificant (cs : List Char) : Prop :=
  ∃ c rest, cs = c :: rest ∧ ('1' ≤ c ∧ c ≤ '9') ∧ IsDigits rest

theorem isDigit_of_between {c : Char} (h : '1' ≤ c ∧ c ≤ '9') : c.isDigit = true := by
  have hone : '1'.val.toNat = 0x31 := rfl
  have hnine : '9'.val.toNat = 0x39 := rfl
  have hzero : '0'.val.toNat = 0x30 := rfl
  obtain ⟨hlow, hhigh⟩ := h
  rw [Char.le_def, UInt32.le_iff_toNat_le] at hlow hhigh
  rw [Char.isDigit, Bool.and_eq_true, decide_eq_true_eq, decide_eq_true_eq, ge_iff_le,
    UInt32.le_iff_toNat_le, UInt32.le_iff_toNat_le]
  omega

theorem IsSignificant.isDigits {cs : List Char} (h : IsSignificant cs) : IsDigits cs := by
  obtain ⟨c, rest, rfl, hc, hrest⟩ := h
  intro d hd
  rcases List.mem_cons.mp hd with rfl | hd
  · exact isDigit_of_between hc
  · exact hrest d hd

theorem IsSignificant.ne_nil {cs : List Char} (h : IsSignificant cs) : cs ≠ [] := by
  obtain ⟨c, rest, rfl, -⟩ := h
  exact List.cons_ne_nil c rest

theorem IsSignificant.append {cs ds : List Char} (hcs : IsSignificant cs) (hds : IsDigits ds) :
    IsSignificant (cs ++ ds) := by
  obtain ⟨c, rest, rfl, hc, hrest⟩ := hcs
  exact ⟨c, rest ++ ds, rfl, hc, isDigits_append hrest hds⟩

theorem IsSignificant.take {cs : List Char} (h : IsSignificant cs) (count : Nat) :
    IsSignificant (cs.take (count + 1)) := by
  obtain ⟨c, rest, rfl, hc, hrest⟩ := h
  exact ⟨c, rest.take count, rfl, hc, fun d hd => hrest d (List.mem_of_mem_take hd)⟩

theorem isSignificant_toDigits {n : Nat} (hn : n ≠ 0) : IsSignificant (Nat.toDigits 10 n) := by
  induction n using Nat.base_induction 10 (by decide) with
  | single m hm =>
    rw [Nat.toDigits_of_lt_base hm]
    refine ⟨Nat.digitChar m, [], rfl, ?_, fun _ hc => absurd hc List.not_mem_nil⟩
    have hall : ∀ m < 10, m ≠ 0 → '1' ≤ Nat.digitChar m ∧ Nat.digitChar m ≤ '9' := by decide
    exact hall m hm hn
  | digit m k hk hm ih =>
    rw [← Nat.toDigits_append_toDigits (by decide) hm hk]
    exact (ih (Nat.ne_of_gt hm)).append (isDigits_toDigits k)

/-! Values of digits. -/

theorem digitValue?_of_isDigit {c : Char} (h : c.isDigit = true) :
    digitValue? c = some (c.toNat - '0'.toNat) := by
  simp only [Char.isDigit, Bool.and_eq_true, decide_eq_true_eq, UInt32.le_iff_toNat_le] at h
  have hzero : '0'.val.toNat = 0x30 := rfl
  have hnine : '9'.val.toNat = 0x39 := rfl
  have hrange : (decide (0x30 ≤ c.toNat) && decide (c.toNat < 0x30 + 10)) = true := by
    rw [Bool.and_eq_true, decide_eq_true_eq, decide_eq_true_eq, Char.toNat]
    omega
  have hfound : zeroDigits.find? (fun z => z ≤ c.toNat && c.toNat < z + 10) = some 0x30 :=
    List.find?_cons_of_pos hrange
  rw [digitValue?, hfound]
  rfl

theorem isDecimalDigit_of_isDigit {c : Char} (h : c.isDigit = true) : isDecimalDigit c = true := by
  rw [isDecimalDigit, digitValue?_of_isDigit h]
  rfl

theorem natOfDigits_eq_ofDigitChars {cs : List Char} (h : IsDigits cs) :
    natOfDigits cs = Nat.ofDigitChars 10 cs 0 := by
  have hfold : ∀ (ds : List Char) (n : Nat), IsDigits ds →
      ds.foldl (fun n c => 10 * n + (digitValue? c).getD 0) n = Nat.ofDigitChars 10 ds n := by
    intro ds
    induction ds with
    | nil => exact fun n _ => Nat.ofDigitChars_nil.symm
    | cons d rest ih =>
      intro n hds
      rw [List.foldl_cons, Nat.ofDigitChars_cons, digitValue?_of_isDigit (hds d List.mem_cons_self),
        Option.getD_some]
      exact ih _ fun c hc => hds c (List.mem_cons_of_mem _ hc)
  exact hfold cs 0 h

theorem natOfDigits_toDigits (n : Nat) : natOfDigits (Nat.toDigits 10 n) = n := by
  rw [natOfDigits_eq_ofDigitChars (isDigits_toDigits n), Nat.ofDigitChars_ten_toDigits]

theorem natOfDigits_append_zeros (cs : List Char) (count : Nat) :
    natOfDigits (cs ++ List.replicate count '0') = natOfDigits cs * 10 ^ count := by
  have hzero : (digitValue? '0').getD 0 = 0 := by decide
  induction count with
  | zero => rw [List.replicate_zero, List.append_nil, Nat.pow_zero, Nat.mul_one]
  | succ count ih =>
    rw [List.replicate_succ', ← List.append_assoc, natOfDigits, List.foldl_append, ← natOfDigits, ih,
      List.foldl_cons, List.foldl_nil, hzero, Nat.pow_succ, Nat.add_zero, Nat.mul_comm 10, Nat.mul_assoc]

theorem natOfDigits_zeros_append (count : Nat) (cs : List Char) :
    natOfDigits (List.replicate count '0' ++ cs) = natOfDigits cs := by
  have hzero : (digitValue? '0').getD 0 = 0 := by decide
  induction count with
  | zero => rfl
  | succ count ih =>
    rw [List.replicate_succ, List.cons_append, natOfDigits, List.foldl_cons, hzero]
    exact ih

namespace NumberText

def spellFraction (n : NumberText) : List Char :=
  if n.fraction = [] then [] else '.' :: n.fraction

def spellExponent (n : NumberText) : List Char :=
  match n.exponent with
  | none => []
  | some (negative, digits) => 'e' :: (if negative then '-' else '+') :: digits

/-- The parts of a number as they stand in a text. -/
def spell (n : NumberText) : List Char :=
  (if n.negative then ['-'] else []) ++ n.whole ++ n.spellFraction ++ n.spellExponent

/-- What the parts of a number must be like to stand in a text. -/
structure WellFormed (n : NumberText) : Prop where
  whole : n.whole = ['0'] ∨ IsSignificant n.whole
  fraction : IsDigits n.fraction
  exponent : ∀ negative digits, n.exponent = some (negative, digits) → IsDigits digits ∧ digits ≠ []

end NumberText

/-- The parts of an integer's text. -/
def NumberText.ofInt (i : Int) : NumberText :=
  ⟨decide (i < 0), Nat.toDigits 10 i.natAbs, [], none⟩

theorem NumberText.wellFormed_ofInt (i : Int) : (ofInt i).WellFormed := by
  refine ⟨?_, fun _ hc => absurd hc List.not_mem_nil, fun _ _ h => nomatch h⟩
  by_cases hzero : i.natAbs = 0
  · left
    rw [ofInt, hzero]
    exact Nat.toDigits_zero 10
  · exact .inr (isSignificant_toDigits hzero)

theorem NumberText.spell_ofInt (i : Int) : (ofInt i).spell = (toString i).toList := by
  rw [Int.toString_eq_repr, Int.repr_eq_if]
  by_cases hneg : i < 0
  · have hsize : (-i).toNat = i.natAbs := by omega
    simp only [ofInt, spell, spellFraction, spellExponent, hneg, decide_true, if_true, Int.not_le.mpr hneg,
      if_false, String.toList_append, Nat.toList_repr, hsize, List.append_nil]
    rfl
  · have hsize : i.toNat = i.natAbs := by omega
    simp only [ofInt, spell, spellFraction, spellExponent, hneg, decide_false, if_true,
      Int.not_lt.mp hneg, Nat.toList_repr, hsize, List.append_nil, Bool.false_eq_true, if_false,
      List.nil_append]

-- An integer that has few enough digits is read back.
theorem NumberText.toInt?_ofInt {i : Int} (h : (Nat.toDigits 10 i.natAbs).length ≤ greatestSize) :
    (ofInt i).toInt? = some i := by
  unfold toInt? ofInt
  rw [if_neg (Nat.not_lt.mpr h), natOfDigits_toDigits]
  by_cases hneg : i < 0
  · simp only [hneg, decide_true, if_true]
    congr 1
    omega
  · simp only [hneg, decide_false, Bool.false_eq_true, if_false]
    congr 1
    omega

/-- A class of digits that the reader of numbers may use. -/
structure DigitClass (isDigit : Char → Bool) : Prop where
  digit : ∀ c, c.isDigit = true → isDigit c = true
  point : isDigit '.' = false
  exponent : isDigit 'e' = false

theorem digitClass_isDecimalDigit : DigitClass isDecimalDigit :=
  ⟨fun _ => isDecimalDigit_of_isDigit, by decide, by decide⟩

/-- Whether a number ends in front of a text. -/
def EndsNumber (isDigit : Char → Bool) (rest : List Char) : Prop :=
  ∀ c, rest.head? = some c → isDigit c = false ∧ c ≠ '.' ∧ c ≠ 'e' ∧ c ≠ 'E'

/-- A run of characters ends in front of one of another kind. -/
theorem span_append {p : Char → Bool} {cs rest : List Char} (hcs : ∀ c ∈ cs, p c = true)
    (hrest : ∀ c, rest.head? = some c → p c = false) :
    (cs ++ rest).takeWhile p = cs ∧ (cs ++ rest).dropWhile p = rest := by
  rw [List.takeWhile_append_of_pos hcs, List.dropWhile_append_of_pos hcs]
  cases rest with
  | nil => exact ⟨by rw [List.takeWhile_nil, List.append_nil], rfl⟩
  | cons c more =>
    have hc := hrest c rfl
    exact ⟨by rw [List.takeWhile_cons_of_neg (by simp [hc]), List.append_nil],
      List.dropWhile_cons_of_neg (by simp [hc])⟩

section

variable {isDigit : Char → Bool} (hclass : DigitClass isDigit)
include hclass

theorem span_digits {ds rest : List Char} (hds : IsDigits ds)
    (hrest : ∀ c, rest.head? = some c → isDigit c = false) :
    (ds ++ rest).takeWhile isDigit = ds ∧ (ds ++ rest).dropWhile isDigit = rest :=
  span_append (fun c hc => hclass.digit c (hds c hc)) hrest

theorem scanWhole?_spell {whole rest : List Char}
    (h : whole = ['0'] ∨ IsSignificant whole)
    (hrest : ∀ c, rest.head? = some c → isDigit c = false) :
    scanWhole? isDigit (whole ++ rest) = some (whole, rest) := by
  obtain rfl | ⟨c, ds, rfl, hc, hds⟩ := h
  · rfl
  · obtain ⟨htake, hdrop⟩ := span_digits hclass hds hrest
    have hne : c ≠ '0' := by
      rintro rfl
      exact absurd hc.1 (by decide)
    rw [List.cons_append, scanWhole?, if_pos hc, htake, hdrop]
    exact hne

theorem scanFraction_spell {n : NumberText} (h : n.WellFormed) {rest : List Char}
    (hrest : ∀ c, rest.head? = some c → isDigit c = false ∧ c ≠ '.') :
    scanFraction isDigit (n.spellFraction ++ rest) = (n.fraction, rest) := by
  unfold NumberText.spellFraction
  by_cases hfraction : n.fraction = []
  · rw [if_pos hfraction, List.nil_append, hfraction]
    cases rest with
    | nil => rfl
    | cons c more =>
      unfold scanFraction
      split
      · next heq => exact absurd (List.cons.inj heq).1 (hrest c rfl).2
      · rfl
  · obtain ⟨htake, hdrop⟩ := span_digits hclass h.fraction fun c hc => (hrest c hc).1
    have hempty : n.fraction.isEmpty = false := List.isEmpty_eq_false_iff.mpr hfraction
    rw [if_neg hfraction, List.cons_append, scanFraction]
    simp only [htake, hdrop, hempty]
    rfl

theorem scanExponent_spell {n : NumberText} (h : n.WellFormed) {rest : List Char}
    (hrest : EndsNumber isDigit rest) :
    scanExponent isDigit (n.spellExponent ++ rest) = (n.exponent, rest) := by
  unfold NumberText.spellExponent
  cases hexponent : n.exponent with
  | none =>
    rw [List.nil_append]
    cases rest with
    | nil => rfl
    | cons c more =>
      obtain ⟨-, -, he, hE⟩ := hrest c rfl
      rw [scanExponent, if_neg (by rintro (h | h) <;> contradiction)]
  | some exponent =>
    obtain ⟨negative, digits⟩ := exponent
    obtain ⟨hdigits, hne⟩ := h.exponent negative digits hexponent
    obtain ⟨htake, hdrop⟩ := span_digits hclass hdigits fun c hc => (hrest c hc).1
    have hempty : digits.isEmpty = false := List.isEmpty_eq_false_iff.mpr hne
    cases negative <;> simp [scanExponent, htake, hdrop, hempty]

-- Neither an exponent nor what follows the number continues the fraction.
theorem head_spellExponent (n : NumberText) {rest : List Char} (hrest : EndsNumber isDigit rest) :
    ∀ c, (n.spellExponent ++ rest).head? = some c → isDigit c = false ∧ c ≠ '.' := by
  unfold NumberText.spellExponent
  cases n.exponent with
  | none => exact fun c hc => ⟨(hrest c hc).1, (hrest c hc).2.1⟩
  | some exponent =>
    intro c hc
    obtain rfl := Option.some.inj hc
    exact ⟨hclass.exponent, by decide⟩

-- The whole part ends at the point, at the exponent or with the number.
theorem head_spellFraction (n : NumberText) {rest : List Char}
    (hrest : ∀ c, rest.head? = some c → isDigit c = false ∧ c ≠ '.') :
    ∀ c, (n.spellFraction ++ rest).head? = some c → isDigit c = false := by
  unfold NumberText.spellFraction
  split
  · exact fun c hc => (hrest c hc).1
  · intro c hc
    obtain rfl := Option.some.inj hc
    exact hclass.point

/-- A number is read back from its spelling in front of a text that does not continue it. -/
theorem scanNumber?_spell {n : NumberText} (h : n.WellFormed) {rest : List Char}
    (hrest : EndsNumber isDigit rest) : scanNumber? isDigit (n.spell ++ rest) = some (n, rest) := by
  have hexponent := scanExponent_spell hclass h hrest
  have hbehindFraction := head_spellExponent hclass n hrest
  have hfraction := scanFraction_spell hclass h hbehindFraction
  have hwhole := scanWhole?_spell hclass h.whole (head_spellFraction hclass n hbehindFraction)
  -- without a sign the first character is a digit
  have hsign : ∀ cs : List Char, (n.whole ++ cs).head? ≠ some '-' := by
    intro cs hhead
    obtain heq | ⟨c, ds, heq, hc, -⟩ := h.whole
    · rw [heq] at hhead
      exact absurd (Option.some.inj hhead) (by decide)
    · rw [heq] at hhead
      obtain rfl := Option.some.inj hhead
      exact absurd hc.1 (by decide)
  obtain ⟨negative, whole, fraction, exponent⟩ := n
  cases negative with
  | false =>
    simp only [NumberText.spell, List.append_assoc, Bool.false_eq_true, if_false, List.nil_append] at *
    rw [scanNumber?]
    simp only [hsign, decide_false, if_false, hwhole, Option.bind_eq_bind, Option.bind_some, hfraction,
      hexponent]
  | true =>
    simp only [NumberText.spell, List.append_assoc, if_true] at *
    rw [scanNumber?]
    simp only [List.cons_append, List.nil_append, List.head?_cons, decide_true, if_true, List.drop_one,
      List.tail_cons, hwhole, Option.bind_eq_bind, Option.bind_some, hfraction, hexponent]

end

end Scim.Text
