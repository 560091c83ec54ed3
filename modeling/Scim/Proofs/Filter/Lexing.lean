import Scim.Json.Writer
import Scim.Proofs.AttrPath.Spelling
import Scim.Proofs.Binary64.RoundTrip
import Scim.Proofs.Filter.Grammar
import Scim.Proofs.Json.StringLiteral
import Scim.Proofs.Outcome

/-!
Which tokens the parts of a written filter are cut into.
-/

namespace Scim.Filter

/-- Whether a text in front of `rest` is cut into the tokens. -/
def Cut (position : Nat) (text rest : List Char) (ts : List Token) : Prop :=
  tokensFrom position 0 (text ++ rest) = (tokensFrom (position + text.length) 0 rest).map (ts ++ ·)

theorem Cut.append {position : Nat} {text more rest : List Char} {ts us : List Token}
    (htext : Cut position text (more ++ rest) ts) (hmore : Cut (position + text.length) more rest us) :
    Cut position (text ++ more) rest (ts ++ us) := by
  unfold Cut at *
  rw [List.append_assoc, htext, hmore, List.length_append, Nat.add_assoc]
  cases tokensFrom (position + (text.length + more.length)) 0 rest with
  | error e => rfl
  | ok vs => simp only [Except.map, List.append_assoc]

-- The tokens of a whole text.
theorem Cut.tokens_eq {text : List Char} {ts : List Token} (h : Cut 0 text [] ts) :
    tokens text = .ok ts := by
  unfold Cut at h
  rw [List.append_nil] at h
  rw [tokens, h, tokensFrom, Except.map, List.append_nil]

theorem tokensFrom_skip (position : Nat) (text rest : List Char) :
    tokensFrom position text.length (text ++ rest) = tokensFrom (position + text.length) 0 rest := by
  induction text generalizing position with
  | nil => rfl
  | cons c more ih =>
    rw [List.cons_append, List.length_cons, tokensFrom, ih, Nat.add_right_comm, Nat.add_assoc]

/-- What holds of every token that can be read holds of all tokens of an expression. -/
theorem forall_tokensFrom {P : Token → Prop}
    (hread : ∀ position c rest t, readToken position c rest = .ok t → P t) {position skip : Nat} {cs : List Char}
    {ts : List Token} (h : tokensFrom position skip cs = .ok ts) : ∀ t ∈ ts, P t := by
  induction cs generalizing position skip ts with
  | nil =>
    rw [tokensFrom] at h
    obtain rfl := Except.ok.inj h
    exact List.forall_mem_nil P
  | cons c rest ih =>
    cases skip with
    | succ skip => exact ih h
    | zero =>
      rw [tokensFrom] at h
      split at h
      · exact ih h
      · simp only [Except.bind_eq_ok_iff] at h
        obtain ⟨first, hfirst, more, hmore, h⟩ := h
        obtain rfl := Except.ok.inj h
        exact List.forall_mem_cons.mpr ⟨hread _ _ _ _ hfirst, ih hmore⟩

theorem cut_blank {c : Char} (h : Text.isBlank c = true) (position : Nat) (rest : List Char) :
    Cut position [c] rest [] := by
  unfold Cut
  rw [List.singleton_append, tokensFrom, if_pos h]
  show tokensFrom (position + 1) 0 rest = (tokensFrom (position + 1) 0 rest).map ([] ++ ·)
  cases tokensFrom (position + 1) 0 rest <;> rfl

theorem Cut.append_blank {position : Nat} {text more rest : List Char} {ts us : List Token}
    (htext : Cut position text (' ' :: (more ++ rest)) ts)
    (hmore : Cut (position + text.length + 1) more rest us) :
    Cut position (text ++ ' ' :: more) rest (ts ++ us) := by
  have hblank := (cut_blank (c := ' ') (by decide) (position + text.length) (more ++ rest)).append hmore
  exact htext.append hblank

-- A text that is one token.
theorem cut_token {position : Nat} {c : Char} {more rest : List Char} {lexeme : Lexeme}
    (hblank : Text.isBlank c = false)
    (hread : readToken position c (more ++ rest) = .ok ⟨lexeme, c :: more, position⟩) :
    Cut position (c :: more) rest [⟨lexeme, c :: more, position⟩] := by
  have hskip := tokensFrom_skip (position + 1) more rest
  rw [Nat.add_assoc, Nat.add_comm 1] at hskip
  unfold Cut
  rw [List.cons_append, tokensFrom, hblank, if_neg Bool.false_ne_true, hread]
  simp only [List.length_cons, Nat.add_sub_cancel, Except.ok_bind, hskip]
  cases tokensFrom (position + (more.length + 1)) 0 rest <;> rfl

/-! Brackets and words. -/

-- A printing ASCII character is not blank.
theorem isBlank_eq_false_of_ascii {c : Char} (hlow : 0x20 < c.toNat) (hhigh : c.toNat < 0x80) :
    Text.isBlank c = false := by
  simp only [Text.isBlank, Text.blankRanges, Text.inRanges, Bool.or_false, Bool.or_eq_false_iff,
    Bool.and_eq_false_iff, decide_eq_false_iff_not]
  omega

theorem toNat_of_isDigit {c : Char} (h : c.isDigit = true) : 0x2F < c.toNat ∧ c.toNat < 0x3A := by
  have hrange := Char.isDigit_iff_toNat.mp h
  have hends : '0'.toNat = 0x30 ∧ '9'.toNat = 0x39 := ⟨rfl, rfl⟩
  omega

theorem toNat_of_isWordStart {c : Char} (h : isWordStart c = true) :
    c = '$' ∨ 0x40 < c.toNat ∧ c.toNat < 0x7B := by
  simp only [isWordStart, Bool.or_eq_true, decide_eq_true_eq] at h
  exact h.symm.imp_right Text.toNat_of_isAlpha

/-- The brackets around a nested filter. -/
def Closer.brackets : Closer → Char × Char
  | .paren => ('(', ')')
  | .bracket => ('[', ']')

theorem cut_opening (closer : Closer) (position : Nat) (rest : List Char) :
    ∃ t : TokenOf (opens closer), Cut position [closer.brackets.1] rest [t.1] := by
  cases closer with
  | paren => exact ⟨⟨⟨.openParen, ['('], position⟩, rfl⟩, cut_token (by decide) rfl⟩
  | bracket => exact ⟨⟨⟨.openBracket, ['['], position⟩, rfl⟩, cut_token (by decide) rfl⟩

theorem cut_closing (closer : Closer) (position : Nat) (rest : List Char) :
    ∃ t : TokenOf (closes closer), Cut position [closer.brackets.2] rest [t.1] := by
  cases closer with
  | paren => exact ⟨⟨⟨.closeParen, [')'], position⟩, rfl⟩, cut_token (by decide) rfl⟩
  | bracket => exact ⟨⟨⟨.closeBracket, [']'], position⟩, rfl⟩, cut_token (by decide) rfl⟩

-- A word ends in front of a character that no word contains.
theorem cut_word {c : Char} {more rest : List Char} (position : Nat) (hstart : isWordStart c = true)
    (hmore : more.all isWordChar = true)
    (hrest : ∀ d, rest.head? = some d → isWordChar d = false) :
    Cut position (c :: more) rest [⟨.word, c :: more, position⟩] := by
  have hnotDigit : c.isDigit = false := by
    apply Bool.eq_false_iff.mpr
    intro hdigit
    have hrange := toNat_of_isDigit hdigit
    rcases toNat_of_isWordStart hstart with rfl | hstart
    · exact absurd hdigit (by decide)
    · omega
  have hblank : Text.isBlank c = false := by
    rcases toNat_of_isWordStart hstart with rfl | hstart
    · decide
    · exact isBlank_eq_false_of_ascii (by omega) (by omega)
  have hother : ∀ d, isWordStart d = false → c ≠ d := by
    rintro d hd rfl
    exact absurd (hstart.symm.trans hd) (by decide)
  have hword : (more ++ rest).takeWhile isWordChar = more :=
    (Text.span_append (List.all_eq_true.mp hmore) hrest).1
  apply cut_token hblank
  unfold readToken
  rw [if_neg (hother '(' (by decide)), if_neg (hother ')' (by decide)), if_neg (hother '[' (by decide)),
    if_neg (hother ']' (by decide)), if_neg (hother '"' (by decide)), hnotDigit, Bool.or_false,
    if_neg (by simpa using hother '-' (by decide)), if_pos hstart, hword]

/-! Literals. -/

theorem stringLength?_spellChar (c : Char) (rest : List Char) :
    stringLength? (Json.spellChar c ++ rest) =
      (stringLength? rest).map (· + (Json.spellChar c).length) := by
  have hplain : ∀ {d : Char} {behind : List Char}, d ≠ '"' → d ≠ '\\' →
      stringLength? (d :: behind) = (stringLength? behind).map (· + 1) := by
    intro d behind hquote hbackslash
    rw [stringLength?]
    · exact hquote
    · exact fun _ _ heq _ => hbackslash heq
  have hdigit : ∀ n < 16, Nat.digitChar n ≠ '"' ∧ Nat.digitChar n ≠ '\\' := by decide
  obtain ⟨hquote, hbackslash, hspell⟩ | ⟨letter, hu, hletter, hspell⟩ | ⟨hcontrol, hspell⟩ :=
    Json.spellChar_cases c
  · rw [hspell]
    exact hplain hquote hbackslash
  · rw [hspell]
    rfl
  · obtain ⟨hhigh, hhigh'⟩ := hdigit (c.toNat / 16) (by omega)
    obtain ⟨hlow, hlow'⟩ := hdigit (c.toNat % 16) (by omega)
    have hescape : ∀ behind, stringLength? ('\\' :: 'u' :: behind) = (stringLength? behind).map (· + 2) :=
      fun _ => rfl
    have hzero : '0' ≠ '"' ∧ '0' ≠ '\\' := by decide
    rw [hspell]
    simp only [List.cons_append, List.nil_append]
    rw [hescape, hplain hzero.1 hzero.2, hplain hzero.1 hzero.2, hplain hhigh hhigh', hplain hlow hlow']
    simp only [Option.map_map]
    rfl

theorem stringLength?_spell (cs rest : List Char) :
    stringLength? (cs.flatMap Json.spellChar ++ '"' :: rest) =
      some ((cs.flatMap Json.spellChar).length + 1) := by
  induction cs with
  | nil => rfl
  | cons c more ih =>
    rw [List.flatMap_cons, List.append_assoc, stringLength?_spellChar, ih, List.length_append]
    simp only [Option.map_some]
    congr 1
    omega

theorem cut_string (position : Nat) (cs rest : List Char) :
    Cut position (Json.spellString cs) rest
      [⟨.literal (.string (String.ofList cs)), Json.spellString cs, position⟩] := by
  apply cut_token (by decide)
  have hbody : cs.flatMap Json.spellChar ++ ['"'] ++ rest = cs.flatMap Json.spellChar ++ '"' :: rest := by
    rw [List.append_assoc, List.singleton_append]
  have htake : (cs.flatMap Json.spellChar ++ '"' :: rest).take ((cs.flatMap Json.spellChar).length + 1) =
      cs.flatMap Json.spellChar ++ ['"'] := by
    rw [← hbody]
    exact List.take_left' (by rw [List.length_append, List.length_singleton])
  have hread := Json.readString_spell 1 cs []
  show readStringToken position ('"' :: (cs.flatMap Json.spellChar ++ ['"'] ++ rest)) = _
  rw [hbody, readStringToken, List.drop_one, List.tail_cons, stringLength?_spell]
  simp only [List.take_succ_cons, List.drop_one, List.tail_cons, htake, hread]
  rfl

theorem exists_spell_head {n : Text.NumberText} (h : n.WellFormed) :
    ∃ c more, n.spell = c :: more ∧ (c = '-' ∨ c.isDigit = true) := by
  unfold Text.NumberText.spell
  cases n.negative with
  | true => exact ⟨_, _, rfl, .inl rfl⟩
  | false =>
    obtain hwhole | ⟨c, rest, hwhole, hc, -⟩ := h.whole
    · rw [hwhole]
      exact ⟨_, _, rfl, .inr (by decide)⟩
    · rw [hwhole]
      exact ⟨_, _, rfl, .inr (Text.isDigit_of_between hc)⟩

-- A number ends in front of a character that does not continue it.
theorem cut_number {n : Text.NumberText} {v : Value} {rest : List Char} (position : Nat)
    (h : n.WellFormed) (hvalue : numberValue? n = some v)
    (hrest : Text.EndsNumber Text.isDecimalDigit rest) :
    Cut position n.spell rest [⟨.literal v, n.spell, position⟩] := by
  have hscan := Text.scanNumber?_spell Text.digitClass_isDecimalDigit h hrest
  obtain ⟨c, more, hspell, hc⟩ := exists_spell_head h
  have hrange : c = '-' ∨ 0x2F < c.toNat ∧ c.toNat < 0x3A := hc.imp_right toNat_of_isDigit
  have hblank : Text.isBlank c = false := by
    rcases hrange with rfl | hrange
    · decide
    · exact isBlank_eq_false_of_ascii (by omega) (by omega)
  have hother : ∀ d, d ≠ '-' ∧ d.isDigit = false → c ≠ d := by
    rintro d ⟨hminus, hdigit⟩ rfl
    rcases hc with hc | hc
    · exact hminus hc
    · exact absurd (hdigit.symm.trans hc) (by decide)
  have hstart : (c = '-' || c.isDigit) = true := by
    simpa only [Bool.or_eq_true, decide_eq_true_eq] using hc
  have htake : (c :: (more ++ rest)).take ((c :: (more ++ rest)).length - rest.length) = c :: more := by
    rw [← List.cons_append]
    exact List.take_left' (by rw [List.length_append]; omega)
  rw [hspell] at hscan ⊢
  apply cut_token hblank
  unfold readToken
  rw [if_neg (hother '(' (by decide)), if_neg (hother ')' (by decide)), if_neg (hother '[' (by decide)),
    if_neg (hother ']' (by decide)), if_neg (hother '"' (by decide)), if_pos hstart, readNumberToken,
    ← List.cons_append, hscan]
  simp only [List.cons_append, htake, hvalue]

/-! The parts of a written filter. -/

/-- Whether a token ends in front of a text: nothing follows, a blank or a closing bracket. -/
def EndsToken (rest : List Char) : Prop :=
  ∀ c, rest.head? = some c → c = ' ' ∨ c = ')' ∨ c = ']'

theorem endsToken_nil : EndsToken [] :=
  fun _ h => nomatch h

theorem endsToken_cons {c : Char} (h : c = ' ' ∨ c = ')' ∨ c = ']') (rest : List Char) :
    EndsToken (c :: rest) := by
  intro d hd
  obtain rfl := Option.some.inj hd
  exact h

theorem EndsToken.isWordChar {rest : List Char} (h : EndsToken rest) :
    ∀ c, rest.head? = some c → isWordChar c = false := by
  intro c hc
  rcases h c hc with rfl | rfl | rfl <;> decide

theorem EndsToken.endsNumber {rest : List Char} (h : EndsToken rest) :
    Text.EndsNumber Text.isDecimalDigit rest := by
  intro c hc
  rcases h c hc with rfl | rfl | rfl <;> decide

/-- The literals that an expression can carry: no lists, objects or date-times, no numbers that are not
finite, and no integers of too many digits. -/
def IsLiteral : Value → Prop
  | .null => True
  | .bool _ => True
  | .string _ => True
  | .integer i => (Nat.toDigits 10 i.natAbs).length ≤ Text.NumberText.greatestSize
  | .decimal d => d.isFinite = true
  | _ => False

/-- A text that is one literal, in front of all that ends it. -/
def ReadsAsLiteral (text : List Char) (v : Value) : Prop :=
  ∀ position rest, EndsToken rest → ∃ t : Token, t.literal? = some v ∧ Cut position text rest [t]

theorem readsAsLiteral_word {c : Char} {more : List Char} {v : Value} (hstart : isWordStart c = true)
    (hmore : more.all isWordChar = true)
    (hvalue : ∀ position, Token.literal? ⟨.word, c :: more, position⟩ = some v) :
    ReadsAsLiteral (c :: more) v :=
  fun position _ hrest => ⟨_, hvalue position, cut_word position hstart hmore hrest.isWordChar⟩

theorem readsAsLiteral_number {n : Text.NumberText} {v : Value} (h : n.WellFormed)
    (hvalue : numberValue? n = some v) : ReadsAsLiteral n.spell v :=
  fun position _ hrest => ⟨_, rfl, cut_number position h hvalue hrest.endsNumber⟩

/-- The text of a literal is read as the literal. -/
theorem exists_literalText {v : Value} (h : IsLiteral v) :
    ∃ text, Json.write? v = some text ∧ ReadsAsLiteral text v := by
  match v, h with
  | .null, _ => exact ⟨_, rfl, readsAsLiteral_word (by decide) (by decide) fun _ => rfl⟩
  | .bool true, _ => exact ⟨_, rfl, readsAsLiteral_word (by decide) (by decide) fun _ => rfl⟩
  | .bool false, _ => exact ⟨_, rfl, readsAsLiteral_word (by decide) (by decide) fun _ => rfl⟩
  | .string s, _ =>
    refine ⟨_, rfl, fun position rest _ => ⟨_, ?_, cut_string position s.toList rest⟩⟩
    rw [String.ofList_toList]
    rfl
  | .integer i, hdigits =>
    refine ⟨_, rfl, ?_⟩
    have hwhole : (Text.NumberText.ofInt i).isWhole = true := rfl
    rw [← Text.NumberText.spell_ofInt]
    apply readsAsLiteral_number (Text.NumberText.wellFormed_ofInt i)
    rw [numberValue?, if_pos hwhole, Text.NumberText.toInt?_ofInt hdigits]
    rfl
  | .decimal (.finite negative units hunits), _ =>
    obtain ⟨n, hwell, hfraction, hvalue, hspell⟩ :=
      Binary64.exists_magnitudeText Binary64.jsonFormat hunits negative
    have htext : Json.write? (.decimal (.finite negative units hunits)) = some n.spell := by
      rw [hspell, Json.write?, Binary64.text, String.toList_ofList]
      cases negative <;> rfl
    refine ⟨_, htext, readsAsLiteral_number hwell ?_⟩
    rw [numberValue?, hfraction, if_neg Bool.false_ne_true, hvalue]
    rfl

-- A path as one word, in front of all that no word contains.
theorem cut_path {path : AttrPath} {rest : List Char} (position : Nat)
    (hstart : ∃ c more, path.spell = c :: more ∧ isWordStart c = true)
    (hrest : ∀ c, rest.head? = some c → isWordChar c = false) :
    ∃ t : Token, t.path? = some path ∧ Cut position path.spell rest [t] := by
  have hchars : ∀ c ∈ path.spell, isWordChar c = true := by
    intro c hc
    rw [isWordChar]
    rcases AttrPath.mem_spell hc with rfl | rfl | hname | huri
    · decide
    · decide
    · simp only [isNameChar, Bool.or_eq_true] at hname
      rcases hname with (h | h) | h <;> simp [h]
    · simp only [isUriChar, Bool.or_eq_true] at huri
      rcases huri with (h | h) | h <;> simp [h]
  obtain ⟨c, more, hspell, hc⟩ := hstart
  refine ⟨⟨.word, path.spell, position⟩, AttrPath.read?_spell path, ?_⟩
  rw [hspell] at hchars ⊢
  exact cut_word position hc (List.all_eq_true.mpr fun d hd => hchars d (List.mem_cons_of_mem _ hd))
    hrest

theorem cut_operator (operator : Operator) (position : Nat) (rest : List Char) :
    ∃ t : Token, t.operator? = some operator ∧
      Cut position operator.name.toList (' ' :: rest) [t] := by
  have hends := endsToken_cons (.inl rfl) rest
  refine ⟨⟨.word, operator.name.toList, position⟩, ?_, ?_⟩
  · cases operator <;> rfl
  · cases operator <;> exact cut_word position (by decide) (by decide) hends.isWordChar

-- A keyword with a blank on each side.
theorem cut_connective (connective : Connective) (position : Nat) (rest : List Char) :
    ∃ t : Keyword connective.name,
      Cut position (" ".toList ++ connective.name.toList ++ " ".toList) rest [t.1] := by
  have hends := endsToken_cons (.inl rfl) rest
  have hblank := cut_blank (c := ' ') (by decide)
  refine ⟨⟨⟨.word, connective.name.toList, position + 1⟩, by cases connective <;> rfl⟩, ?_⟩
  have hword : Cut (position + 1) connective.name.toList (' ' :: rest)
      [⟨.word, connective.name.toList, position + 1⟩] := by
    cases connective <;> exact cut_word (position + 1) (by decide) (by decide) hends.isWordChar
  have hfirst := (hblank position (connective.name.toList ++ ' ' :: rest)).append hword
  exact hfirst.append (hblank _ rest)

end Scim.Filter
