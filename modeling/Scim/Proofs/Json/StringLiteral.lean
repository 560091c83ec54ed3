import Scim.Json.Text

/-!
String literals are read back from their spelling.
-/

namespace Scim.Json

theorem hexValue?_digitChar : ∀ digit < 16, hexValue? (Nat.digitChar digit) = some digit := by decide

-- The four hexadecimal digits of a control character.
theorem controlDigits : ∀ n < 0x20, List.replicate (4 - (Nat.toDigits 16 n).length) '0' ++
    Nat.toDigits 16 n = ['0', '0', Nat.digitChar (n / 16), Nat.digitChar (n % 16)] := by decide

theorem spellChar_control {c : Char} (hshort : c ≠ '\n' ∧ c ≠ '\r' ∧ c ≠ '\t' ∧ c ≠ '\x08' ∧ c ≠ '\x0c')
    (hcontrol : c.toNat < 0x20) :
    spellChar c =
      ['\\', 'u', '0', '0', Nat.digitChar (c.toNat / 16), Nat.digitChar (c.toNat % 16)] := by
  obtain ⟨hn, hr, ht, hb, hf⟩ := hshort
  have hquote : c ≠ '"' := by rintro rfl; exact absurd hcontrol (by decide)
  have hbackslash : c ≠ '\\' := by rintro rfl; exact absurd hcontrol (by decide)
  simp only [spellChar, if_neg hquote, if_neg hbackslash, if_neg hn, if_neg hr, if_neg ht, if_neg hb,
    if_neg hf, if_pos hcontrol, List.append_assoc, controlDigits c.toNat hcontrol]
  rfl

-- The forms of a spelled character: the character itself, a short escape, or the escape of a control.
theorem spellChar_cases (c : Char) :
    (c ≠ '"' ∧ c ≠ '\\' ∧ spellChar c = [c]) ∨
    (∃ letter, letter ≠ 'u' ∧ shortEscape? letter = some c ∧ spellChar c = ['\\', letter]) ∨
    c.toNat < 0x20 ∧ spellChar c =
      ['\\', 'u', '0', '0', Nat.digitChar (c.toNat / 16), Nat.digitChar (c.toNat % 16)] := by
  by_cases hquote : c = '"'
  · exact .inr (.inl ⟨'"', by decide, by rw [hquote]; rfl, by rw [hquote]; rfl⟩)
  by_cases hbackslash : c = '\\'
  · exact .inr (.inl ⟨'\\', by decide, by rw [hbackslash]; rfl, by rw [hbackslash]; rfl⟩)
  by_cases hn : c = '\n'
  · exact .inr (.inl ⟨'n', by decide, by rw [hn]; rfl, by rw [hn]; rfl⟩)
  by_cases hr : c = '\r'
  · exact .inr (.inl ⟨'r', by decide, by rw [hr]; rfl, by rw [hr]; rfl⟩)
  by_cases ht : c = '\t'
  · exact .inr (.inl ⟨'t', by decide, by rw [ht]; rfl, by rw [ht]; rfl⟩)
  by_cases hb : c = '\x08'
  · exact .inr (.inl ⟨'b', by decide, by rw [hb]; rfl, by rw [hb]; rfl⟩)
  by_cases hf : c = '\x0c'
  · exact .inr (.inl ⟨'f', by decide, by rw [hf]; rfl, by rw [hf]; rfl⟩)
  by_cases hcontrol : c.toNat < 0x20
  · exact .inr (.inr ⟨hcontrol, spellChar_control ⟨hn, hr, ht, hb, hf⟩ hcontrol⟩)
  · refine .inl ⟨hquote, hbackslash, ?_⟩
    simp only [spellChar, if_neg hquote, if_neg hbackslash, if_neg hn, if_neg hr, if_neg ht, if_neg hb,
      if_neg hf, if_neg hcontrol]

theorem nextPiece_plain {c : Char} (hquote : c ≠ '"') (hbackslash : c ≠ '\\') (rest : List Char) :
    nextPiece false (c :: rest) = .char c 1 rest := by
  unfold nextPiece
  split <;> simp_all

theorem nextPiece_short {letter c : Char} (hu : letter ≠ 'u') (h : shortEscape? letter = some c)
    (rest : List Char) : nextPiece false ('\\' :: letter :: rest) = .char c 2 rest := by
  rw [nextPiece, h]
  exact fun hletter => absurd hletter hu

theorem nextPiece_control {n : Nat} (hn : n < 0x20) {rest : List Char} (hrest : rest ≠ []) :
    nextPiece false ('\\' :: 'u' :: '0' :: '0' :: Nat.digitChar (n / 16) :: Nat.digitChar (n % 16) :: rest) =
      .char (Char.ofNat n) 6 rest := by
  have hhigh := hexValue?_digitChar (n / 16) (by omega)
  have hlow := hexValue?_digitChar (n % 16) (by omega)
  have hzero : hexValue? '0' = some 0 := by decide
  have hempty : rest.isEmpty = false := by rw [List.isEmpty_eq_false_iff]; exact hrest
  have hunit : codeUnit? ('0' :: '0' :: Nat.digitChar (n / 16) :: Nat.digitChar (n % 16) :: rest) =
      some (n, rest) := by
    have hvalue : ((0 * 16 + 0) * 16 + n / 16) * 16 + n % 16 = n := by omega
    simp only [codeUnit?, hempty, hhigh, hlow, hzero, Option.bind_eq_bind, Option.bind_some, hvalue]
    rfl
  have hsurrogates : isHighSurrogate n = false ∧ isLowSurrogate n = false := by
    simp only [isHighSurrogate, isLowSurrogate, Bool.and_eq_false_iff, decide_eq_false_iff_not]
    omega
  rw [nextPiece, hunit]
  simp only [hsurrogates, charOfUnit, Bool.or_self, Bool.false_eq_true, if_false]

-- The reader meets the character itself, if the literal goes on behind its spelling.
theorem nextPiece_spellChar (c : Char) {rest : List Char} (hrest : rest ≠ []) :
    nextPiece false (spellChar c ++ rest) = .char c (spellChar c).length rest := by
  obtain ⟨hquote, hbackslash, hspell⟩ | ⟨letter, hu, hletter, hspell⟩ | ⟨hcontrol, hspell⟩ :=
    spellChar_cases c
  · rw [hspell]
    exact nextPiece_plain hquote hbackslash rest
  · rw [hspell]
    exact nextPiece_short hu hletter rest
  · rw [hspell]
    simp only [List.cons_append, List.nil_append, nextPiece_control hcontrol hrest, Char.ofNat_toNat]
    rfl

theorem readStringBody_spell (start : Nat) (rest : List Char) : ∀ (cs : List Char) (fuel position : Nat),
    cs.length < fuel →
    readStringBody false start fuel position (cs.flatMap spellChar ++ '"' :: rest) = .ok (cs, rest) := by
  intro cs
  induction cs with
  | nil =>
    intro fuel position hfuel
    obtain ⟨smaller, rfl⟩ := Nat.exists_eq_succ_of_ne_zero (Nat.ne_of_gt hfuel)
    rfl
  | cons c more ih =>
    intro fuel position hfuel
    obtain ⟨smaller, rfl⟩ := Nat.exists_eq_succ_of_ne_zero (Nat.ne_zero_of_lt hfuel)
    have hrest : more.flatMap spellChar ++ '"' :: rest ≠ [] := by simp
    rw [List.flatMap_cons, List.append_assoc, readStringBody, nextPiece_spellChar c hrest]
    simp only [ih smaller _ (Nat.lt_of_succ_lt_succ hfuel)]
    rfl

theorem length_le_spelled (cs : List Char) : cs.length ≤ (cs.flatMap spellChar).length := by
  induction cs with
  | nil => exact Nat.le_refl 0
  | cons c rest ih =>
    have hc : 0 < (spellChar c).length := by
      obtain ⟨-, -, hspell⟩ | ⟨letter, -, -, hspell⟩ | ⟨-, hspell⟩ := spellChar_cases c <;>
        rw [hspell] <;> exact Nat.succ_pos _
    rw [List.flatMap_cons, List.length_append, List.length_cons]
    omega

/-- A string is read back from its literal. -/
theorem readString_spell (position : Nat) (cs rest : List Char) :
    readString false position (cs.flatMap spellChar ++ '"' :: rest) = .ok (cs, rest) := by
  have hlength := length_le_spelled cs
  rw [readString]
  apply readStringBody_spell
  rw [List.length_append]
  omega

end Scim.Json
