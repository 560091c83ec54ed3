import Scim.Binary64.Shortest

/-!
Rounding of decimals.  The shortest decimal of a number rounds to the number.
-/

namespace Scim.Binary64

-- `^` is the power of the core library, whatever else is in scope.
attribute [local instance (high)] instPowNat

/-! Rounding depends on a quotient only. -/

theorem divideToEven_mul (p q : Nat) {factor : Nat} (hfactor : 0 < factor) :
    divideToEven (p * factor) (q * factor) = divideToEven p q := by
  have hrest : 2 * (p * factor % (q * factor)) = 2 * (p % q) * factor := by
    rw [Nat.mul_mod_mul_right, Nat.mul_assoc]
  unfold divideToEven
  simp only [hrest, Nat.mul_div_mul_right p q hfactor, Nat.mul_lt_mul_right hfactor]

theorem roundUnits_mul (p q : Nat) {factor : Nat} (hfactor : 0 < factor) :
    roundUnits (p * factor) (q * factor) = roundUnits p q := by
  unfold roundUnits
  simp only [Nat.mul_div_mul_right p q hfactor]
  rw [Nat.mul_right_comm, divideToEven_mul _ _ hfactor]

theorem roundUnits_of_representable {units : Nat} (h : Representable units) :
    roundUnits units 1 = units := by
  unfold roundUnits divideToEven
  simp only [Nat.div_one, Nat.one_mul, h.2, Nat.mul_zero, Nat.two_pow_pos, if_true]
  exact Nat.div_mul_cancel (Nat.dvd_of_mod_eq_zero h.2)

/-! Zeros at the end of the digits. -/

theorem toDigits_mul_ten_pow {n : Nat} (hn : 0 < n) (zeros : Nat) :
    Nat.toDigits 10 (n * 10 ^ zeros) = Nat.toDigits 10 n ++ List.replicate zeros '0' := by
  induction zeros with
  | zero => rw [Nat.pow_zero, Nat.mul_one, List.replicate_zero, List.append_nil]
  | succ zeros ih =>
    have hpos : 0 < n * 10 ^ zeros := Nat.mul_pos hn (Nat.pow_pos (by decide))
    have hstep : Nat.toDigits 10 (n * 10 ^ zeros) ++ Nat.toDigits 10 0 = Nat.toDigits 10 (10 * (n * 10 ^ zeros) + 0) :=
      Nat.toDigits_append_toDigits (by decide) hpos (by decide)
    rw [Nat.add_zero, Nat.toDigits_zero, ih] at hstep
    rw [List.replicate_succ', ← List.append_assoc, hstep, Nat.pow_succ, ← Nat.mul_assoc, Nat.mul_comm]

-- Zeros at the end of the digits count as much as the exponent.
theorem decimalUnits?_mul_ten_pow {digits : Nat} (hdigits : digits ≠ 0) (zeros : Nat) (exponent : Int) :
    decimalUnits? (digits * 10 ^ zeros) exponent = decimalUnits? digits (exponent + zeros) := by
  have hten : ∀ k : Nat, 0 < 10 ^ k := fun k => Nat.pow_pos (by decide)
  have hproduct : digits * 10 ^ zeros ≠ 0 := Nat.mul_ne_zero hdigits (Nat.ne_of_gt (hten zeros))
  have hplaces : ((Nat.toDigits 10 (digits * 10 ^ zeros)).length : Int) + exponent =
      (Nat.toDigits 10 digits).length + (exponent + zeros) := by
    rw [toDigits_mul_ten_pow (Nat.pos_of_ne_zero hdigits), List.length_append, List.length_replicate]
    omega
  have hunits : (if exponent < 0 then roundUnits (digits * 10 ^ zeros * one) (10 ^ exponent.natAbs)
        else roundUnits (digits * 10 ^ zeros * 10 ^ exponent.toNat * one) 1) =
      if exponent + zeros < 0 then roundUnits (digits * one) (10 ^ (exponent + zeros).natAbs)
        else roundUnits (digits * 10 ^ (exponent + zeros).toNat * one) 1 := by
    -- the zeros cancel against the power below, or are left over beside the digits
    by_cases hneg : exponent < 0
    · rw [if_pos hneg]
      by_cases hsum : exponent + zeros < 0
      · have hpower : exponent.natAbs = (exponent + zeros).natAbs + zeros := by omega
        rw [if_pos hsum, hpower, Nat.pow_add, Nat.mul_right_comm, roundUnits_mul _ _ (hten zeros)]
      · have hpower : 10 ^ zeros = 10 ^ (exponent + zeros).toNat * 10 ^ exponent.natAbs := by
          rw [← Nat.pow_add]
          congr 1
          omega
        have hdividend : digits * 10 ^ zeros * one =
            digits * 10 ^ (exponent + zeros).toNat * one * 10 ^ exponent.natAbs := by
          rw [hpower, ← Nat.mul_assoc, Nat.mul_right_comm]
        have hscaled := roundUnits_mul (digits * 10 ^ (exponent + zeros).toNat * one) 1
          (hten exponent.natAbs)
        rw [Nat.one_mul] at hscaled
        rw [if_neg hsum, hdividend, hscaled]
    · have hsum : ¬exponent + zeros < 0 := by omega
      have hpower : (exponent + zeros).toNat = zeros + exponent.toNat := by omega
      rw [if_neg hneg, if_neg hsum, hpower, Nat.pow_add, ← Nat.mul_assoc digits]
  simp only [decimalUnits?, hplaces, hproduct, hdigits, hunits]

/-! The shortest decimal reads back. -/

theorem decimalUnits?_zero (exponent : Int) : decimalUnits? 0 exponent = some 0 := by
  simp [decimalUnits?]

theorem five_pow_pos (k : Nat) : 0 < 5 ^ k := Nat.pow_pos (by decide)

theorem ten_pow_pos (k : Nat) : 0 < 10 ^ k := Nat.pow_pos (by decide)

-- Every magnitude has at least 751 exact digits and at most 1383.
theorem length_exactDigits {units : Nat} (hunits : 0 < units) (h : Representable units) :
    750 < (Nat.toDigits 10 (exactDigits units)).length ∧
      (Nat.toDigits 10 (exactDigits units)).length ≤ 1383 := by
  have hleast : 10 ^ (750 : Nat) ≤ 5 ^ (1074 : Nat) := by decide +kernel
  have hgreatest : 2 ^ (2098 : Nat) * 5 ^ (1074 : Nat) ≤ 10 ^ (1383 : Nat) := by decide +kernel
  constructor
  · apply Nat.lt_of_not_le
    rw [Nat.length_toDigits_le_iff (by decide) (by decide), Nat.not_lt]
    exact Nat.le_trans hleast (Nat.le_mul_of_pos_left _ hunits)
  · rw [Nat.length_toDigits_le_iff (by decide) (by decide)]
    exact Nat.lt_of_lt_of_le (Nat.mul_lt_mul_of_pos_right h.1 (five_pow_pos 1074)) hgreatest

theorem roundUnits_mul_factor {units : Nat} (h : Representable units) {factor : Nat}
    (hfactor : 0 < factor) : roundUnits (units * factor) factor = units := by
  have hscaled := roundUnits_mul units 1 hfactor
  rw [Nat.one_mul] at hscaled
  rw [hscaled, roundUnits_of_representable h]

theorem roundUnits_exactDigits {units : Nat} (h : Representable units) :
    roundUnits (exactDigits units * one) (10 ^ (1074 : Nat)) = units := by
  have hten : ∀ k, 10 ^ k = 5 ^ k * 2 ^ k := fun k => Nat.mul_pow 5 2 k
  have hdividend : exactDigits units * one = units * 10 ^ (1074 : Nat) := by
    rw [hten 1074, exactDigits, one, Nat.mul_assoc]
  rw [hdividend, roundUnits_mul_factor h (ten_pow_pos 1074)]

-- The exact digits of a magnitude read back.
theorem decimalUnits?_exactDigits {units : Nat} (hunits : units ≠ 0) (h : Representable units) :
    decimalUnits? (exactDigits units) (-1074) = some units := by
  have hdigits : exactDigits units ≠ 0 := Nat.mul_ne_zero hunits (Nat.ne_of_gt (five_pow_pos 1074))
  -- neither so small nor so large that the digits are not looked at
  obtain ⟨hmany, hfew⟩ := length_exactDigits (Nat.pos_of_ne_zero hunits) h
  have hneg : (-1074 : Int) < 0 := by decide
  have hpower : (-1074 : Int).natAbs = 1074 := rfl
  have hlow : ¬(exactDigits units = 0 ∨ ((Nat.toDigits 10 (exactDigits units)).length : Int) + -1074 < -330) := by
    omega
  have hhigh : ¬((Nat.toDigits 10 (exactDigits units)).length : Int) + -1074 > 310 := by omega
  simp only [decimalUnits?, if_neg hlow, if_neg hhigh, if_pos hneg, hpower, roundUnits_exactDigits h,
    if_pos h.1]

/-- Whether a decimal reads back as a magnitude. -/
def ReadsBack (units : Nat) (decimal : Nat × Int) : Prop :=
  decimalUnits? decimal.1 decimal.2 = some units

theorem decimalOfLength?_readsBack {units size count : Nat} {found : Nat × Int}
    (h : decimalOfLength? units size count = some found) : ReadsBack units found := by
  unfold decimalOfLength? at h
  obtain ⟨digits, hdigits, rfl⟩ := Option.map_eq_some_iff.mp h
  have hreads := List.find?_some hdigits
  rw [decide_eq_true_eq] at hreads
  exact hreads

/-- The shortest decimal of a magnitude reads back as the magnitude. -/
theorem shortest_readsBack {units : Nat} (hunits : units ≠ 0) (h : Representable units) :
    ReadsBack units (shortest units) := by
  -- stated for any search, since the one at hand is too large to be opened
  have hchoice : ∀ (found : Option (Nat × Int)) (exact : Nat × Int),
      (∀ decimal, found = some decimal → ReadsBack units decimal) → ReadsBack units exact →
      ReadsBack units (found.getD exact) := by
    intro found exact hfound hexact
    cases found with
    | none => exact hexact
    | some decimal => exact hfound decimal rfl
  unfold shortest
  apply hchoice
  · intro decimal hdecimal
    obtain ⟨i, -, hi⟩ := List.exists_of_findSome?_eq_some hdecimal
    exact decimalOfLength?_readsBack hi
  · exact decimalUnits?_exactDigits hunits h

theorem ofDecimal_eq_finite {digits units : Nat} {exponent : Int}
    (hdigits : decimalUnits? digits exponent = some units) (h : Representable units) (negative : Bool) :
    ofDecimal negative digits exponent = .finite negative units h := by
  rw [ofDecimal, hdigits]
  exact dif_pos h

end Scim.Binary64
