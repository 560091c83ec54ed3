import Scim.Filter.Token
import Scim.Proofs.Json.Grammar

/-!
Numbers that are written with the digits of any script: in ASCII digits they are numbers of JSON, with the same value.
-/

namespace Scim.Json

open Scim.Text (IsDigits IsSignificant digitValue? isDecimalDigit natOfDigits)

/-- The ASCII digit that has the value of a digit; other characters are left alone. -/
def asciiDigit (c : Char) : Char :=
  match digitValue? c with
  | some value => Nat.digitChar value
  | none => c

theorem digitValue?_lt {c : Char} {value : Nat} (h : digitValue? c = some value) : value < 10 := by
  obtain ⟨start, hstart, rfl⟩ := Option.map_eq_some_iff.mp h
  have hbetween := List.find?_some hstart
  rw [Bool.and_eq_true, decide_eq_true_eq, decide_eq_true_eq] at hbetween
  omega

theorem digitValue?_digitChar : ∀ value < 10, digitValue? (Nat.digitChar value) = some value := by decide

theorem isDigit_digitChar : ∀ value < 10, (Nat.digitChar value).isDigit = true := by decide

theorem digitValue?_asciiDigit (c : Char) : digitValue? (asciiDigit c) = digitValue? c := by
  unfold asciiDigit
  cases hvalue : digitValue? c with
  | none => exact hvalue
  | some value => exact digitValue?_digitChar value (digitValue?_lt hvalue)

theorem isDigit_asciiDigit {c : Char} (h : isDecimalDigit c = true) : (asciiDigit c).isDigit = true := by
  obtain ⟨value, hvalue⟩ := Option.isSome_iff_exists.mp h
  rw [asciiDigit, hvalue]
  exact isDigit_digitChar value (digitValue?_lt hvalue)

theorem asciiDigit_of_isDigit {c : Char} (h : c.isDigit = true) : asciiDigit c = c := by
  have hchar : ∀ value < 10, Nat.digitChar value = Char.ofNat ('0'.toNat + value) := by decide
  have hvalue := Text.digitValue?_of_isDigit h
  have hrange := Char.isDigit_iff_toNat.mp h
  have hsum : '0'.toNat + (c.toNat - '0'.toNat) = c.toNat := by omega
  rw [asciiDigit, hvalue]
  show Nat.digitChar (c.toNat - '0'.toNat) = c
  rw [hchar _ (digitValue?_lt hvalue), hsum, Char.ofNat_toNat]

theorem asciiDigit_of_not_decimal {c : Char} (h : isDecimalDigit c = false) : asciiDigit c = c := by
  rw [asciiDigit, Option.not_isSome_iff_eq_none.mp (Bool.eq_false_iff.mp h)]

/-- The digits of a text are those of ASCII. -/
def IsAscii (text : List Char) : Prop :=
  ∀ c ∈ text, isDecimalDigit c = true → c.isDigit = true

theorem map_asciiDigit {text : List Char} (h : IsAscii text) : text.map asciiDigit = text := by
  have hchar : ∀ c ∈ text, asciiDigit c = id c := by
    intro c hc
    cases hdecimal : isDecimalDigit c with
    | false => exact asciiDigit_of_not_decimal hdecimal
    | true => exact asciiDigit_of_isDigit (h c hc hdecimal)
  rw [List.map_congr_left hchar, List.map_id]

/-! The literals of JSON have no other digits, except in strings. -/

theorem isAscii_of_wordLiterals {text : List Char} {v : Value} (h : (text, v) ∈ wordLiterals) : IsAscii text := by
  have hall : (wordLiterals.all fun word => word.1.all fun c => !isDecimalDigit c) = true := by decide
  have htext := List.all_eq_true.mp (List.all_eq_true.mp hall (text, v) h)
  exact fun c hc hdecimal => absurd (htext c hc) (by rw [hdecimal]; exact Bool.false_ne_true)

theorem isAscii_of_isDigits {digits : List Char} (h : IsDigits digits) : IsAscii digits :=
  fun c hc _ => h c hc

theorem IsAscii.append {text more : List Char} (h : IsAscii text) (hmore : IsAscii more) :
    IsAscii (text ++ more) := by
  intro c hc
  rcases List.mem_append.mp hc with hc | hc
  · exact h c hc
  · exact hmore c hc

theorem IsAscii.cons {c : Char} {text : List Char} (hc : isDecimalDigit c = false) (h : IsAscii text) :
    IsAscii (c :: text) :=
  List.forall_mem_cons.mpr ⟨fun hdecimal => (nomatch hdecimal.symm.trans hc), h⟩

theorem isAscii_nil : IsAscii [] :=
  List.forall_mem_nil _

theorem Exponent.isAscii {text : List Char} {e : Int} (h : Exponent text e) : IsAscii text := by
  have hmark : ∀ {mark : Char}, mark = 'e' ∨ mark = 'E' → isDecimalDigit mark = false := by
    rintro mark (rfl | rfl) <;> decide
  cases h with
  | absent => exact isAscii_nil
  | bare h hdigits => exact (isAscii_of_isDigits hdigits).cons (hmark h)
  | plus h hdigits => exact ((isAscii_of_isDigits hdigits).cons (by decide)).cons (hmark h)
  | minus h hdigits => exact ((isAscii_of_isDigits hdigits).cons (by decide)).cons (hmark h)

theorem Number.isAscii {text : List Char} {v : Value} (h : Number text v) : IsAscii text := by
  cases h with
  | mk hsign hwhole hfraction hexponent =>
    refine .append ?_ ((isAscii_of_isDigits hwhole.isDigits).append (.append ?_ hexponent.isAscii))
    · cases hsign with
      | absent => exact isAscii_nil
      | minus => exact isAscii_nil.cons (by decide)
    · cases hfraction with
      | absent => exact isAscii_nil
      | present hdigits => exact (isAscii_of_isDigits hdigits).cons (by decide)

theorem Denotes.isAscii {c : Char} {text : List Char} {v : Value} (h : Denotes (c :: text) v) (hquote : c ≠ '"') :
    IsAscii (c :: text) := by
  cases h with
  | word h => exact isAscii_of_wordLiterals h
  | string => exact absurd rfl hquote
  | number h => exact h.isAscii

/-! Runs of digits. -/

section

variable {digits : List Char} (h : ∀ c ∈ digits, isDecimalDigit c = true)
include h

theorem isDigits_map : IsDigits (digits.map asciiDigit) := by
  intro c hc
  obtain ⟨d, hd, rfl⟩ := List.mem_map.mp hc
  exact isDigit_asciiDigit (h d hd)

theorem ofDigitChars_map : Nat.ofDigitChars 10 (digits.map asciiDigit) 0 = natOfDigits digits := by
  rw [← Text.natOfDigits_eq_ofDigitChars (isDigits_map h)]
  unfold natOfDigits
  rw [List.foldl_map]
  simp only [digitValue?_asciiDigit]

end

theorem isDecimal_takeWhile (cs : List Char) : ∀ c ∈ cs.takeWhile isDecimalDigit, isDecimalDigit c = true :=
  List.all_eq_true.mp List.all_takeWhile

/-! The parts of a number. -/

theorem whole_of_scanWhole? {cs whole rest : List Char}
    (h : Text.scanWhole? isDecimalDigit cs = some (whole, rest)) :
    cs = whole ++ rest ∧ (∀ c ∈ whole, isDecimalDigit c = true) ∧ Whole (whole.map asciiDigit) := by
  unfold Text.scanWhole? at h
  split at h
  · obtain ⟨rfl, rfl⟩ := Prod.mk.inj (Option.some.inj h)
    exact ⟨rfl, List.forall_mem_singleton.mpr (by decide), .inl (by decide)⟩
  · rename_i c more _
    split at h
    · rename_i hc
      obtain ⟨rfl, rfl⟩ := Prod.mk.inj (Option.some.inj h)
      have hdigit : c.isDigit = true := Text.isDigit_of_between hc
      refine ⟨by rw [List.cons_append, List.takeWhile_append_dropWhile],
        List.forall_mem_cons.mpr ⟨Text.isDecimalDigit_of_isDigit hdigit, isDecimal_takeWhile more⟩, .inr ?_⟩
      exact ⟨c, _, by rw [List.map_cons, asciiDigit_of_isDigit hdigit], hc, isDigits_map (isDecimal_takeWhile more)⟩
    · cases h
  · cases h

theorem fraction_of_scanFraction {cs digits rest : List Char}
    (h : Text.scanFraction isDecimalDigit cs = (digits, rest)) :
    ∃ text, cs = text ++ rest ∧ (∀ c ∈ digits, isDecimalDigit c = true) ∧
      Fraction (text.map asciiDigit) (digits.map asciiDigit) := by
  unfold Text.scanFraction at h
  split at h
  · rename_i more
    dsimp only at h
    split at h
    · obtain ⟨rfl, rfl⟩ := Prod.mk.inj h
      exact ⟨[], rfl, nofun, .absent⟩
    · rename_i hne
      obtain ⟨rfl, rfl⟩ := Prod.mk.inj h
      refine ⟨'.' :: more.takeWhile isDecimalDigit, ?_, isDecimal_takeWhile more, ?_⟩
      · rw [List.cons_append, List.takeWhile_append_dropWhile]
      · exact .present (isDigits_map (isDecimal_takeWhile more))
          fun hempty => hne (List.isEmpty_iff.mpr (List.map_eq_nil_iff.mp hempty))
  · obtain ⟨rfl, rfl⟩ := Prod.mk.inj h
    exact ⟨[], rfl, nofun, .absent⟩

/-- The value of an exponent from its sign and its digits. -/
def exponentOf : Option (Bool × List Char) → Int
  | none => 0
  | some (negative, digits) => if negative then -(natOfDigits digits : Int) else natOfDigits digits

-- The digits of an exponent behind its mark and its sign; without digits none of these is read.
theorem exponent_of_digits (front : List Char) (negative : Bool) {cs rest : List Char}
    {exponent : Option (Bool × List Char)} (hfront : front.map asciiDigit = front) (hempty : front ≠ [])
    (hderives : ∀ ds, IsDigits ds → ds ≠ [] → Exponent (front ++ ds)
      (if negative then -(Nat.ofDigitChars 10 ds 0 : Int) else Nat.ofDigitChars 10 ds 0))
    (h : (if (cs.takeWhile isDecimalDigit).isEmpty then (none, front ++ cs)
      else (some (negative, cs.takeWhile isDecimalDigit), cs.dropWhile isDecimalDigit)) = (exponent, rest)) :
    ∃ text, front ++ cs = text ++ rest ∧ (text = [] ↔ exponent = none) ∧
      Exponent (text.map asciiDigit) (exponentOf exponent) := by
  by_cases hnone : (cs.takeWhile isDecimalDigit).isEmpty = true
  · rw [if_pos hnone] at h
    obtain ⟨rfl, rfl⟩ := Prod.mk.inj h
    exact ⟨[], rfl, iff_of_true rfl rfl, .absent⟩
  · rw [if_neg hnone] at h
    obtain ⟨rfl, rfl⟩ := Prod.mk.inj h
    have hdecimal := isDecimal_takeWhile cs
    refine ⟨front ++ cs.takeWhile isDecimalDigit, ?_, iff_of_false ?_ nofun, ?_⟩
    · rw [List.append_assoc, List.takeWhile_append_dropWhile]
    · exact fun happend => hempty (List.append_eq_nil_iff.mp happend).1
    · rw [List.map_append, hfront, exponentOf, ← ofDigitChars_map hdecimal]
      exact hderives _ (isDigits_map hdecimal) fun hmap => hnone (List.isEmpty_iff.mpr (List.map_eq_nil_iff.mp hmap))

theorem exponent_of_scanExponent {cs rest : List Char} {exponent : Option (Bool × List Char)}
    (h : Text.scanExponent isDecimalDigit cs = (exponent, rest)) :
    ∃ text, cs = text ++ rest ∧ (text = [] ↔ exponent = none) ∧
      Exponent (text.map asciiDigit) (exponentOf exponent) := by
  have hnone : (none, cs) = (exponent, rest) → ∃ text, cs = text ++ rest ∧ (text = [] ↔ exponent = none) ∧
      Exponent (text.map asciiDigit) (exponentOf exponent) := by
    intro h
    obtain ⟨rfl, rfl⟩ := Prod.mk.inj h
    exact ⟨[], rfl, iff_of_true rfl rfl, .absent⟩
  cases cs with
  | nil => exact hnone h
  | cons mark more =>
    by_cases hmark : mark = 'e' ∨ mark = 'E'
    · have hascii : asciiDigit mark = mark := by rcases hmark with rfl | rfl <;> decide
      rw [Text.scanExponent, if_pos hmark] at h
      by_cases hminus : more.head? = some '-'
      · obtain ⟨digits, rfl⟩ := List.head?_eq_some_iff.mp hminus
        refine exponent_of_digits [mark, '-'] true ?_ (List.cons_ne_nil _ _)
          (fun ds hds hne => .minus hmark hds hne) h
        rw [List.map_cons, hascii]
        rfl
      · by_cases hplus : more.head? = some '+'
        · obtain ⟨digits, rfl⟩ := List.head?_eq_some_iff.mp hplus
          refine exponent_of_digits [mark, '+'] false ?_ (List.cons_ne_nil _ _)
            (fun ds hds hne => .plus hmark hds hne) h
          rw [List.map_cons, hascii]
          rfl
        · simp only [hminus, hplus, or_self, if_false, decide_false] at h
          refine exponent_of_digits [mark] false ?_ (List.cons_ne_nil _ _)
            (fun ds hds hne => .bare hmark hds hne) h
          rw [List.map_cons, hascii]
          rfl
    · rw [Text.scanExponent, if_neg hmark] at h
      exact hnone h

theorem Fraction.eq_nil_iff {text digits : List Char} (h : Fraction text digits) : text = [] ↔ digits = [] := by
  cases h with
  | absent => exact iff_of_true rfl rfl
  | present _ hne => exact iff_of_false (List.cons_ne_nil _ _) hne

-- The value that is read from the parts of a number is the one that they have in ASCII digits.
theorem numberValue_of_parts {n : Text.NumberText} {v : Value} (fraction exponent : List Char)
    (hwhole : ∀ c ∈ n.whole, isDecimalDigit c = true) (hfraction : ∀ c ∈ n.fraction, isDecimalDigit c = true)
    (hpoint : fraction = [] ↔ n.fraction = []) (hmark : exponent = [] ↔ n.exponent = none)
    (hv : Filter.numberValue? n = some v) :
    numberValue n.negative (n.whole.map asciiDigit) fraction (n.fraction.map asciiDigit) exponent
      (exponentOf n.exponent) = v := by
  have hisWhole : n.isWhole = true ↔ fraction = [] ∧ exponent = [] := by
    rw [Text.NumberText.isWhole, Bool.and_eq_true, List.isEmpty_iff, Option.isNone_iff_eq_none, hpoint, hmark]
  have hexponent : n.exponentValue = exponentOf n.exponent := by
    obtain ⟨_, _, _, _ | ⟨_, _⟩⟩ := n <;> rfl
  unfold Filter.numberValue? at hv
  unfold numberValue
  by_cases hint : n.isWhole = true
  · rw [if_pos hint] at hv
    rw [if_pos (hisWhole.mp hint), ofDigitChars_map hwhole]
    obtain ⟨i, hi, rfl⟩ := Option.map_eq_some_iff.mp hv
    unfold Text.NumberText.toInt? at hi
    split at hi
    · cases hi
    · rw [← Option.some.inj hi]
  · rw [if_neg hint] at hv
    rw [if_neg fun hparts => hint (hisWhole.mpr hparts), ← List.map_append, List.length_map,
      ofDigitChars_map (List.forall_mem_append.mpr ⟨hwhole, hfraction⟩), ← hexponent]
    dsimp only at hv
    split at hv
    · exact Option.some.inj hv
    · cases hv

/-- A number that is read off a text is one of JSON in ASCII digits, and its value is the one that JSON gives it. -/
theorem number_of_scanNumber? {cs rest : List Char} {n : Text.NumberText} {v : Value}
    (h : Text.scanNumber? isDecimalDigit cs = some (n, rest)) (hv : Filter.numberValue? n = some v) :
    ∃ text, cs = text ++ rest ∧ Number (text.map asciiDigit) v := by
  unfold Text.scanNumber? at h
  simp only [Option.bind_eq_bind, Option.bind_eq_some_iff] at h
  obtain ⟨⟨whole, behind⟩, hscan, h⟩ := h
  obtain ⟨digits, behindFraction, hscanFraction⟩ : ∃ digits rest,
      Text.scanFraction isDecimalDigit behind = (digits, rest) := ⟨_, _, rfl⟩
  obtain ⟨exponent, last, hscanExponent⟩ : ∃ exponent rest,
      Text.scanExponent isDecimalDigit behindFraction = (exponent, rest) := ⟨_, _, rfl⟩
  simp only [hscanFraction, hscanExponent] at h
  obtain ⟨rfl, rfl⟩ := Prod.mk.inj (Option.some.inj h)
  obtain ⟨hbehind, hwholeDigits, hwhole⟩ := whole_of_scanWhole? hscan
  obtain ⟨fractionText, rfl, hfractionDigits, hfraction⟩ := fraction_of_scanFraction hscanFraction
  obtain ⟨exponentText, rfl, hmark, hexponent⟩ := exponent_of_scanExponent hscanExponent
  have hpoint := hfraction.eq_nil_iff
  rw [List.map_eq_nil_iff, List.map_eq_nil_iff] at hpoint
  rw [← numberValue_of_parts (fractionText.map asciiDigit) (exponentText.map asciiDigit)
    hwholeDigits hfractionDigits (by rw [List.map_eq_nil_iff, hpoint]) (by rw [List.map_eq_nil_iff, hmark]) hv]
  have hunsigned : (whole ++ (fractionText ++ exponentText)).map asciiDigit = whole.map asciiDigit ++
      (fractionText.map asciiDigit ++ exponentText.map asciiDigit) := by
    rw [List.map_append, List.map_append]
  by_cases hminus : cs.head? = some '-'
  · obtain ⟨more, rfl⟩ := List.head?_eq_some_iff.mp hminus
    obtain rfl : more = whole ++ (fractionText ++ (exponentText ++ last)) := hbehind
    refine ⟨'-' :: (whole ++ (fractionText ++ exponentText)), by simp only [List.cons_append, List.append_assoc], ?_⟩
    rw [List.map_cons, hunsigned]
    exact .mk .minus hwhole hfraction hexponent
  · rw [if_neg hminus] at hbehind
    refine ⟨whole ++ (fractionText ++ exponentText), by simp only [hbehind, List.append_assoc], ?_⟩
    rw [hunsigned]
    simp only [hminus, decide_false]
    exact .mk .absent hwhole hfraction hexponent

end Scim.Json
