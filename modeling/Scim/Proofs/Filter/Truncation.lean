import Scim.Proofs.Filter.FirstFault

/-!
Expressions cut off in front of a token.  What a token is depends on no more of the text behind it than that the text
does not go on with the token: where an expression is cut off behind some of its tokens, and something is put there
that ends a token, these tokens are the same.
-/

namespace Scim.Filter

/-- Whether the second text is the first one up to some place, with a text there that ends a token. -/
inductive Truncation : List Char → List Char → Prop
  | here {cs ds : List Char} (ends : EndsToken ds) : Truncation cs ds
  | behind {cs ds : List Char} (c : Char) (h : Truncation cs ds) : Truncation (c :: cs) (c :: ds)

theorem Truncation.refl (cs : List Char) : Truncation cs cs := by
  induction cs with
  | nil => exact .here endsToken_nil
  | cons c more ih => exact .behind c ih

theorem Truncation.append {cs ds : List Char} (h : Truncation cs ds) (front : List Char) :
    Truncation (front ++ cs) (front ++ ds) := by
  induction front with
  | nil => exact h
  | cons c more ih => exact .behind c ih

-- What no text that ends a token starts with, the truncated text does not start with either.
theorem Truncation.head {cs ds : List Char} (h : Truncation cs ds) {p : Char → Bool}
    (hends : p ' ' = false ∧ p ')' = false ∧ p ']' = false) (hhead : ∀ c, cs.head? = some c → p c = false) :
    ∀ c, ds.head? = some c → p c = false := by
  cases h with
  | here ends =>
    intro c hc
    rcases ends c hc with rfl | rfl | rfl
    · exact hends.1
    · exact hends.2.1
    · exact hends.2.2
  | behind c h => exact hhead

theorem head_dropWhile {p : Char → Bool} (cs : List Char) : ∀ c, (cs.dropWhile p).head? = some c → p c = false := by
  intro c hc
  have h := List.head?_dropWhile_not p cs
  rw [hc] at h
  simpa using h

-- A run of characters stays what it is.
theorem Truncation.span {cs behind : List Char} {p : Char → Bool} (h : Truncation (cs.dropWhile p) behind)
    (hends : p ' ' = false ∧ p ')' = false ∧ p ']' = false) :
    (cs.takeWhile p ++ behind).takeWhile p = cs.takeWhile p ∧ (cs.takeWhile p ++ behind).dropWhile p = behind :=
  Text.span_append (List.all_eq_true.mp List.all_takeWhile) (h.head hends (head_dropWhile cs))

theorem Truncation.takeWhile_eq_nil {cs ds : List Char} {p : Char → Bool} (h : Truncation cs ds)
    (hends : p ' ' = false ∧ p ')' = false ∧ p ']' = false) (hcs : cs.takeWhile p = []) : ds.takeWhile p = [] := by
  have hdrop : cs.dropWhile p = cs := by
    have happend : cs.takeWhile p ++ cs.dropWhile p = cs := List.takeWhile_append_dropWhile
    rwa [hcs, List.nil_append] at happend
  have htake := (Truncation.span (by rwa [hdrop] : Truncation (cs.dropWhile p) ds) hends).1
  rwa [hcs, List.nil_append] at htake

/-! Numbers. -/

/-- Whether a scanner finds the same again in a truncated text. -/
def ScansAgain {α : Type} (scan : List Char → Option (α × List Char)) : Prop :=
  ∀ cs a rest, scan cs = some (a, rest) → ∃ text, text ++ rest = cs ∧
    ∀ behind, Truncation rest behind → scan (text ++ behind) = some (a, behind)

theorem isDecimalDigit_ends : Text.isDecimalDigit ' ' = false ∧ Text.isDecimalDigit ')' = false ∧
    Text.isDecimalDigit ']' = false := by
  decide

theorem scanWhole?_again : ScansAgain (Text.scanWhole? Text.isDecimalDigit) := by
  intro cs whole rest h
  unfold Text.scanWhole? at h
  split at h
  · obtain ⟨rfl, rfl⟩ := Prod.mk.inj (Option.some.inj h)
    exact ⟨['0'], rfl, fun _ _ => rfl⟩
  · rename_i c more hzero
    split at h
    · rename_i hdigit
      obtain ⟨rfl, rfl⟩ := Prod.mk.inj (Option.some.inj h)
      refine ⟨c :: more.takeWhile Text.isDecimalDigit, ?_, fun behind hbehind => ?_⟩
      · rw [List.cons_append, List.takeWhile_append_dropWhile]
      · obtain ⟨htake, hdrop⟩ := hbehind.span isDecimalDigit_ends
        rw [List.cons_append, Text.scanWhole?, if_pos hdigit, htake, hdrop]
        exact hzero
    · cases h
  · cases h

theorem scanFraction_of_head {cs : List Char} (h : ∀ c, cs.head? = some c → (c == '.') = false) :
    Text.scanFraction Text.isDecimalDigit cs = ([], cs) := by
  unfold Text.scanFraction
  split
  · exact absurd (h '.' rfl) (by decide)
  · rfl

-- A point without digits behind it is not read, and gets no digits.
theorem scanFraction_again : ScansAgain (some ∘ Text.scanFraction Text.isDecimalDigit) := by
  intro cs digits rest h
  have hscan := Option.some.inj h
  unfold Text.scanFraction at hscan
  split at hscan
  · rename_i more
    dsimp only at hscan
    split at hscan
    · rename_i hempty
      obtain ⟨rfl, rfl⟩ := Prod.mk.inj hscan
      refine ⟨[], rfl, fun behind hbehind => congrArg some ?_⟩
      cases hbehind with
      | here ends =>
        apply scanFraction_of_head
        intro c hc
        rcases ends c hc with rfl | rfl | rfl <;> rfl
      | behind c hmore =>
        have hnone := hmore.takeWhile_eq_nil isDecimalDigit_ends (List.isEmpty_iff.mp hempty)
        rw [List.nil_append, Text.scanFraction]
        simp only [hnone, List.isEmpty_nil, if_true]
    · rename_i hempty
      obtain ⟨rfl, rfl⟩ := Prod.mk.inj hscan
      refine ⟨'.' :: more.takeWhile Text.isDecimalDigit, ?_, fun behind hbehind => congrArg some ?_⟩
      · rw [List.cons_append, List.takeWhile_append_dropWhile]
      · obtain ⟨htake, hdrop⟩ := hbehind.span isDecimalDigit_ends
        rw [List.cons_append, Text.scanFraction]
        simp only [htake, hdrop, hempty]
        rfl
  · rename_i hpoint
    obtain ⟨rfl, rfl⟩ := Prod.mk.inj hscan
    refine ⟨[], rfl, fun behind hbehind => congrArg some ?_⟩
    apply scanFraction_of_head
    refine hbehind.head (by decide) fun c hc => Bool.eq_false_iff.mpr fun hc' => ?_
    obtain ⟨more, rfl⟩ := List.head?_eq_some_iff.mp hc
    exact hpoint more (by rw [eq_of_beq hc'])

/-- What stands behind the sign of an exponent, if it has one. -/
def behindSign (cs : List Char) : List Char :=
  if cs.head? = some '-' ∨ cs.head? = some '+' then cs.drop 1 else cs

theorem scanExponent_of_head {cs : List Char} (h : ∀ c, cs.head? = some c → (c == 'e' || c == 'E') = false) :
    Text.scanExponent Text.isDecimalDigit cs = (none, cs) := by
  cases cs with
  | nil => rfl
  | cons c more =>
    have hc := h c rfl
    simp only [Bool.or_eq_false_iff, beq_eq_false_iff_ne] at hc
    rw [Text.scanExponent, if_neg (not_or.mpr hc)]

theorem scanExponent_cons {c : Char} (hc : c = 'e' ∨ c = 'E') (cs : List Char) :
    Text.scanExponent Text.isDecimalDigit (c :: cs) =
      if ((behindSign cs).takeWhile Text.isDecimalDigit).isEmpty then (none, c :: cs)
      else (some (decide (cs.head? = some '-'), (behindSign cs).takeWhile Text.isDecimalDigit),
        (behindSign cs).dropWhile Text.isDecimalDigit) := by
  rw [Text.scanExponent, if_pos hc]
  rfl

theorem Truncation.behindSign {cs ds : List Char} (h : Truncation cs ds) :
    Truncation (behindSign cs) (behindSign ds) := by
  unfold Filter.behindSign
  cases h with
  | here ends =>
    have hsign : ¬ (ds.head? = some '-' ∨ ds.head? = some '+') := by
      rintro (hhead | hhead)
      · exact absurd (ends _ hhead) (by decide)
      · exact absurd (ends _ hhead) (by decide)
    rw [if_neg hsign]
    exact .here ends
  | behind c h =>
    simp only [List.head?_cons, List.drop_one, List.tail_cons]
    split
    · exact h
    · exact .behind c h

-- With its digits an exponent has the same sign in front of anything.
theorem behindSign_digits {cs : List Char} (h : (behindSign cs).takeWhile Text.isDecimalDigit ≠ []) :
    ∃ text, text ++ (behindSign cs).dropWhile Text.isDecimalDigit = cs ∧ ∀ behind,
      behindSign (text ++ behind) = (behindSign cs).takeWhile Text.isDecimalDigit ++ behind ∧
        (text ++ behind).head? = cs.head? := by
  cases cs with
  | nil => exact absurd rfl h
  | cons c more =>
    unfold behindSign at h ⊢
    simp only [List.head?_cons, List.drop_one, List.tail_cons] at h ⊢
    by_cases hsign : some c = some '-' ∨ some c = some '+'
    · simp only [hsign, if_true] at h ⊢
      refine ⟨c :: more.takeWhile Text.isDecimalDigit, ?_, fun behind => ⟨?_, rfl⟩⟩
      · rw [List.cons_append, List.takeWhile_append_dropWhile]
      · simp only [List.cons_append, List.head?_cons, hsign, if_true, List.tail_cons]
    · simp only [hsign, if_false] at h ⊢
      refine ⟨(c :: more).takeWhile Text.isDecimalDigit, List.takeWhile_append_dropWhile, fun behind => ?_⟩
      obtain ⟨digits, hdigits⟩ : ∃ digits, (c :: more).takeWhile Text.isDecimalDigit = c :: digits := by
        rw [List.takeWhile_cons] at h ⊢
        split at h
        · rename_i hc
          rw [if_pos hc]
          exact ⟨_, rfl⟩
        · exact absurd rfl h
      rw [hdigits]
      exact ⟨by simp only [List.cons_append, List.head?_cons, hsign, if_false], rfl⟩

theorem scanExponent_again : ScansAgain (some ∘ Text.scanExponent Text.isDecimalDigit) := by
  intro cs exponent rest h
  have hscan := Option.some.inj h
  by_cases hhead : ∃ c more, cs = c :: more ∧ (c = 'e' ∨ c = 'E')
  · obtain ⟨c, more, rfl, hc⟩ := hhead
    rw [scanExponent_cons hc] at hscan
    split at hscan
    · rename_i hempty
      obtain ⟨rfl, rfl⟩ := Prod.mk.inj hscan
      refine ⟨[], rfl, fun behind hbehind => congrArg some ?_⟩
      cases hbehind with
      | here ends =>
        apply scanExponent_of_head
        intro d hd
        rcases ends d hd with rfl | rfl | rfl <;> rfl
      | behind _ hmore =>
        have hnone := hmore.behindSign.takeWhile_eq_nil isDecimalDigit_ends (List.isEmpty_iff.mp hempty)
        rw [List.nil_append, scanExponent_cons hc]
        simp only [hnone, List.isEmpty_nil, if_true]
    · rename_i hempty
      obtain ⟨rfl, rfl⟩ := Prod.mk.inj hscan
      obtain ⟨text, htext, hagain⟩ := behindSign_digits fun h => hempty (List.isEmpty_iff.mpr h)
      refine ⟨c :: text, by rw [List.cons_append, htext], fun behind hbehind => congrArg some ?_⟩
      obtain ⟨htake, hdrop⟩ := hbehind.span isDecimalDigit_ends
      obtain ⟨hunsigned, hhead⟩ := hagain behind
      rw [List.cons_append, scanExponent_cons hc, hunsigned, hhead, htake, hdrop, if_neg hempty]
  · have hnone : ∀ {ds : List Char}, Truncation cs ds → Text.scanExponent Text.isDecimalDigit ds = (none, ds) := by
      intro ds hds
      apply scanExponent_of_head
      refine hds.head (by decide) fun c hc => Bool.eq_false_iff.mpr fun hc' => ?_
      obtain ⟨more, rfl⟩ := List.head?_eq_some_iff.mp hc
      exact hhead ⟨c, more, rfl, by simpa using hc'⟩
    obtain ⟨rfl, rfl⟩ := Prod.mk.inj ((hnone (.refl cs)).symm.trans hscan)
    exact ⟨[], rfl, fun behind hbehind => congrArg some (hnone hbehind)⟩

theorem scanNumber?_of_parts {cs whole behindWhole fraction behindFraction rest : List Char}
    {exponent : Option (Bool × List Char)}
    (hwhole : Text.scanWhole? Text.isDecimalDigit (if cs.head? = some '-' then cs.drop 1 else cs) =
      some (whole, behindWhole))
    (hfraction : Text.scanFraction Text.isDecimalDigit behindWhole = (fraction, behindFraction))
    (hexponent : Text.scanExponent Text.isDecimalDigit behindFraction = (exponent, rest)) :
    Text.scanNumber? Text.isDecimalDigit cs =
      some (⟨cs.head? = some '-', whole, fraction, exponent⟩, rest) := by
  unfold Text.scanNumber?
  simp only [hwhole, hfraction, hexponent, Option.bind_eq_bind, Option.bind_some]

theorem head_of_scanWhole? {cs whole rest : List Char}
    (h : Text.scanWhole? Text.isDecimalDigit cs = some (whole, rest)) : cs.head? ≠ some '-' := by
  intro hminus
  obtain ⟨more, rfl⟩ := List.head?_eq_some_iff.mp hminus
  rw [Text.scanWhole?, if_neg (by decide)] at h
  · cases h
  · decide

theorem scanNumber?_again : ScansAgain (Text.scanNumber? Text.isDecimalDigit) := by
  intro cs number rest h
  cases hwhole : Text.scanWhole? Text.isDecimalDigit (if cs.head? = some '-' then cs.drop 1 else cs) with
  | none =>
    unfold Text.scanNumber? at h
    simp only [hwhole, Option.bind_eq_bind, Option.bind_none] at h
    exact nomatch h
  | some outcome =>
    obtain ⟨whole, behindWhole⟩ := outcome
    obtain ⟨fraction, behindFraction, hfraction⟩ : ∃ fraction behind,
        Text.scanFraction Text.isDecimalDigit behindWhole = (fraction, behind) := ⟨_, _, rfl⟩
    obtain ⟨exponent, behindExponent, hexponent⟩ : ∃ exponent behind,
        Text.scanExponent Text.isDecimalDigit behindFraction = (exponent, behind) := ⟨_, _, rfl⟩
    obtain ⟨rfl, rfl⟩ := Prod.mk.inj (Option.some.inj
      ((scanNumber?_of_parts hwhole hfraction hexponent).symm.trans h))
    -- the texts of the parts, each in front of a truncation of what was behind it
    obtain ⟨third, rfl, exponentAgain⟩ := scanExponent_again _ _ _ (congrArg some hexponent)
    obtain ⟨second, rfl, fractionAgain⟩ := scanFraction_again _ _ _ (congrArg some hfraction)
    obtain ⟨first, hfirst, wholeAgain⟩ := scanWhole?_again _ _ _ hwhole
    have hparts : ∀ behind, Truncation behindExponent behind →
        Text.scanWhole? Text.isDecimalDigit (first ++ (second ++ (third ++ behind))) =
          some (whole, second ++ (third ++ behind)) ∧
        Text.scanFraction Text.isDecimalDigit (second ++ (third ++ behind)) = (fraction, third ++ behind) ∧
        Text.scanExponent Text.isDecimalDigit (third ++ behind) = (exponent, behind) := by
      intro behind hbehind
      exact ⟨wholeAgain _ ((hbehind.append third).append second),
        Option.some.inj (fractionAgain _ (hbehind.append third)), Option.some.inj (exponentAgain _ hbehind)⟩
    by_cases hminus : cs.head? = some '-'
    · obtain ⟨more, rfl⟩ := List.head?_eq_some_iff.mp hminus
      obtain rfl : first ++ (second ++ (third ++ behindExponent)) = more := hfirst
      refine ⟨'-' :: (first ++ (second ++ third)), by simp, fun behind hbehind => ?_⟩
      obtain ⟨hwhole', hfraction', hexponent'⟩ := hparts behind hbehind
      simp only [List.cons_append, List.append_assoc]
      exact scanNumber?_of_parts hwhole' hfraction' hexponent'
    · rw [if_neg hminus] at hfirst
      subst hfirst
      refine ⟨first ++ (second ++ third), by simp, fun behind hbehind => ?_⟩
      obtain ⟨hwhole', hfraction', hexponent'⟩ := hparts behind hbehind
      have hminus' := head_of_scanWhole? hwhole'
      have hnumber := scanNumber?_of_parts (by rw [if_neg hminus']; exact hwhole') hfraction' hexponent'
      simp only [hminus'] at hnumber
      simp only [hminus, List.append_assoc, hnumber]

/-! Tokens. -/

-- A string literal ends at its closing quote, whatever is behind it.
theorem stringLength?_take {cs : List Char} {length : Nat} (h : stringLength? cs = some length) :
    length ≤ cs.length ∧ ∀ behind, stringLength? (cs.take length ++ behind) = some length := by
  induction cs using stringLength?.induct generalizing length with
  | case1 => exact nomatch h
  | case2 more =>
    obtain rfl := Option.some.inj h
    exact ⟨by simp, fun _ => rfl⟩
  | case3 c more ih =>
    obtain ⟨shorter, hshorter, rfl⟩ := Option.map_eq_some_iff.mp h
    obtain ⟨hle, hagain⟩ := ih hshorter
    refine ⟨by simp only [List.length_cons]; omega, fun behind => ?_⟩
    rw [List.take_succ_cons, List.take_succ_cons, List.cons_append, List.cons_append, stringLength?, hagain]
    rfl
  | case4 c more hquote hescape ih =>
    rw [stringLength?] at h
    · obtain ⟨shorter, hshorter, rfl⟩ := Option.map_eq_some_iff.mp h
      obtain ⟨hle, hagain⟩ := ih hshorter
      refine ⟨by simp only [List.length_cons]; omega, fun behind => ?_⟩
      rw [List.take_succ_cons, List.cons_append, stringLength?, hagain]
      · rfl
      · exact hquote
      · intro d ds hc _
        cases more with
        | nil => exact nomatch hshorter
        | cons e es => exact hescape e es hc rfl
    · exact hquote
    · exact hescape

theorem readStringToken_again {position : Nat} {rest : List Char} {t : Token}
    (h : readStringToken position ('"' :: rest) = .ok t) :
    ∃ more behind, more ++ behind = rest ∧ t.text = '"' :: more ∧ t.position = position ∧
      ∀ behind', readStringToken position ('"' :: (more ++ behind')) = .ok t := by
  unfold readStringToken at h ⊢
  simp only [List.drop_one, List.tail_cons, List.take_succ_cons] at h ⊢
  cases hlength : stringLength? rest with
  | none => rw [hlength] at h; exact nomatch h
  | some length =>
    obtain ⟨hle, hagain⟩ := stringLength?_take hlength
    simp only [hlength] at h
    refine ⟨rest.take length, rest.drop length, List.take_append_drop length rest, ?_, ?_, fun behind => ?_⟩
    · split at h
      · obtain rfl := Except.ok.inj h
        rfl
      · exact nomatch h
    · split at h
      · obtain rfl := Except.ok.inj h
        rfl
      · exact nomatch h
    · have htake : (rest.take length ++ behind).take length = rest.take length :=
        List.take_left' (List.length_take_of_le hle)
      simp only [hagain, htake]
      exact h

theorem readNumberToken_again {position : Nat} {c : Char} {rest : List Char} {t : Token}
    (h : readNumberToken position c (c :: rest) = .ok t) :
    ∃ more behind, more ++ behind = rest ∧ t.text = c :: more ∧ t.position = position ∧
      ∀ behind', Truncation behind behind' → readNumberToken position c (c :: (more ++ behind')) = .ok t := by
  unfold readNumberToken at h ⊢
  cases hscan : Text.scanNumber? Text.isDecimalDigit (c :: rest) with
  | none => rw [hscan] at h; exact nomatch h
  | some outcome =>
    obtain ⟨number, behind⟩ := outcome
    obtain ⟨text, htext, hagain⟩ := scanNumber?_again _ _ _ hscan
    cases text with
    | nil =>
      have hnone : Text.scanNumber? Text.isDecimalDigit [] = none := rfl
      exact nomatch hnone.symm.trans (hagain [] (.here endsToken_nil))
    | cons d more =>
      rw [List.cons_append] at htext
      obtain ⟨rfl, rfl⟩ := List.cons.inj htext
      have htake : ∀ behind : List Char, (d :: (more ++ behind)).take ((d :: (more ++ behind)).length -
          behind.length) = d :: more := by
        intro behind
        rw [← List.cons_append]
        exact List.take_left' (by rw [List.length_append]; omega)
      simp only [hscan, htake] at h
      refine ⟨more, behind, rfl, ?_, ?_, fun behind' hbehind => ?_⟩
      · split at h
        · obtain rfl := Except.ok.inj h
          rfl
        · exact nomatch h
      · split at h
        · obtain rfl := Except.ok.inj h
          rfl
        · exact nomatch h
      · have hscan' := hagain behind' hbehind
        rw [List.cons_append] at hscan'
        simp only [hscan', htake]
        exact h

/-- A token is read again in front of any truncation of what was behind it. -/
theorem readToken_again {position : Nat} {c : Char} {rest : List Char} {t : Token}
    (h : readToken position c rest = .ok t) :
    ∃ more behind, more ++ behind = rest ∧ t.text = c :: more ∧ t.position = position ∧
      ∀ behind', Truncation behind behind' → readToken position c (more ++ behind') = .ok t := by
  have hbracket : ∀ lexeme, (∀ rest, readToken position c rest = .ok ⟨lexeme, [c], position⟩) →
      ∃ more behind, more ++ behind = rest ∧ t.text = c :: more ∧ t.position = position ∧
        ∀ behind', Truncation behind behind' → readToken position c (more ++ behind') = .ok t := by
    intro lexeme hread
    obtain rfl := Except.ok.inj ((hread rest).symm.trans h)
    exact ⟨[], rest, rfl, rfl, rfl, fun behind' _ => hread behind'⟩
  by_cases hparen : c = '('
  · exact hbracket .openParen fun _ => by rw [readToken, if_pos hparen]
  by_cases hparen' : c = ')'
  · exact hbracket .closeParen fun _ => by rw [readToken, if_neg hparen, if_pos hparen']
  by_cases hbracket' : c = '['
  · exact hbracket .openBracket fun _ => by rw [readToken, if_neg hparen, if_neg hparen', if_pos hbracket']
  by_cases hbracket'' : c = ']'
  · exact hbracket .closeBracket fun _ => by
      rw [readToken, if_neg hparen, if_neg hparen', if_neg hbracket', if_pos hbracket'']
  have hplain : ∀ rest, readToken position c rest =
      if c = '"' then readStringToken position (c :: rest)
      else if c = '-' || c.isDigit then readNumberToken position c (c :: rest)
      else if isWordStart c then .ok ⟨.word, c :: rest.takeWhile isWordChar, position⟩
      else .error ⟨.unexpectedCharacter c, position⟩ := by
    intro rest
    rw [readToken, if_neg hparen, if_neg hparen', if_neg hbracket', if_neg hbracket'']
  simp only [hplain] at h ⊢
  split at h
  · rename_i hquote
    subst hquote
    obtain ⟨more, behind, hsplit, htext, hposition, hagain⟩ := readStringToken_again h
    exact ⟨more, behind, hsplit, htext, hposition, fun behind' _ => hagain behind'⟩
  · rename_i hquote
    simp only [if_neg hquote]
    split at h
    · rename_i hnumber
      simp only [if_pos hnumber]
      exact readNumberToken_again h
    · rename_i hnumber
      simp only [if_neg hnumber]
      split at h
      · rename_i hstart
        simp only [if_pos hstart]
        obtain rfl := Except.ok.inj h
        refine ⟨rest.takeWhile isWordChar, rest.dropWhile isWordChar, List.takeWhile_append_dropWhile, rfl, rfl,
          fun behind' hbehind => ?_⟩
        rw [(hbehind.span (by decide)).1]
      · exact nomatch h

/-! Expressions. -/

theorem cut_nil (position : Nat) (rest : List Char) : Cut position [] rest [] := by
  unfold Cut
  rw [List.nil_append, List.length_nil, Nat.add_zero]
  cases tokensFrom position 0 rest <;> rfl

-- What is cut into tokens is blank, or a token behind blanks and a text that is cut into the others.
theorem tokensFrom_inv {position : Nat} {cs : List Char} {ts : List Token}
    (h : tokensFrom position 0 cs = .ok ts) :
    ∃ blanks, (∀ rest, Cut position blanks rest []) ∧
      (ts = [] ∧ cs = blanks ∨
        ∃ t us behind, ts = t :: us ∧ cs = blanks ++ (t.text ++ behind) ∧ t.text ≠ [] ∧
          t.position = position + blanks.length ∧
          tokensFrom (position + blanks.length + t.text.length) 0 behind = .ok us ∧
          ∀ behind', Truncation behind behind' → Cut (position + blanks.length) t.text behind' [t]) := by
  induction cs generalizing position with
  | nil =>
    rw [tokensFrom] at h
    exact ⟨[], cut_nil position, .inl ⟨(Except.ok.inj h).symm, rfl⟩⟩
  | cons c rest ih =>
    rw [tokensFrom] at h
    by_cases hblank : Text.isBlank c = true
    · rw [if_pos hblank] at h
      have hlength : ∀ blanks : List Char, position + (c :: blanks).length = position + 1 + blanks.length := by
        intro blanks
        rw [List.length_cons]
        omega
      obtain ⟨blanks, hcut, hrest⟩ := ih h
      refine ⟨c :: blanks, fun rest => (cut_blank hblank position _).append (hcut rest), ?_⟩
      rw [hlength]
      rcases hrest with ⟨hts, rfl⟩ | ⟨t, us, behind, hts, rfl, htoken⟩
      · exact .inl ⟨hts, rfl⟩
      · exact .inr ⟨t, us, behind, hts, rfl, htoken⟩
    · rw [if_neg hblank] at h
      simp only [Except.bind_eq_ok_iff] at h
      obtain ⟨t, hread, us, hmore, hpair⟩ := h
      obtain rfl := Except.ok.inj hpair
      obtain ⟨more, behind, rfl, htext, rfl, hagain⟩ := readToken_again hread
      obtain ⟨lexeme, text, start⟩ := t
      obtain rfl : text = c :: more := htext
      refine ⟨[], cut_nil start, .inr ⟨_, us, behind, rfl, rfl, List.cons_ne_nil c more, rfl, ?_, fun behind' hbehind =>
        cut_token (Bool.eq_false_iff.mpr hblank) (hagain behind' hbehind)⟩⟩
      rw [List.length_cons, Nat.add_sub_cancel, tokensFrom_skip] at hmore
      rw [List.length_nil, Nat.add_zero, List.length_cons, Nat.add_comm more.length, ← Nat.add_assoc]
      exact hmore

/-- An expression can be cut off in front of any of its tokens, or at its end: the tokens before are cut from what
is left, whatever is put there that ends a token. -/
theorem exists_truncation {before after : List Token} {position : Nat} {cs : List Char}
    (h : tokensFrom position 0 cs = .ok (before ++ after)) :
    ∃ front behind, front ++ behind = cs ∧ position + front.length = startOf (position + cs.length) after ∧
      (behind = [] ↔ after = []) ∧ ∀ rest, EndsToken rest → Cut position front rest before := by
  induction before generalizing position cs with
  | nil =>
    obtain ⟨blanks, hcut, ⟨rfl, rfl⟩ | ⟨t, us, behind, rfl, rfl, hne, hposition, -⟩⟩ := tokensFrom_inv h
    · exact ⟨cs, [], List.append_nil cs, rfl, iff_of_true rfl rfl, fun rest _ => hcut rest⟩
    · refine ⟨blanks, t.text ++ behind, rfl, hposition.symm, iff_of_false ?_ (List.cons_ne_nil t us),
        fun rest _ => hcut rest⟩
      exact fun happend => hne (List.append_eq_nil_iff.mp happend).1
  | cons t more ih =>
    obtain ⟨blanks, hcut, ⟨hts, -⟩ | ⟨u, us, behind, hts, rfl, -, -, hmore, htoken⟩⟩ := tokensFrom_inv h
    · exact nomatch hts
    · obtain ⟨rfl, rfl⟩ := List.cons.inj hts
      obtain ⟨front, last, rfl, hposition, hlast, hfront⟩ := ih hmore
      refine ⟨blanks ++ (t.text ++ front), last, by simp only [List.append_assoc], ?_, hlast, fun rest hrest => ?_⟩
      · simpa only [List.length_append, Nat.add_assoc] using hposition
      · have hbehind : Truncation (front ++ last) (front ++ rest) := (Truncation.here hrest).append front
        exact (hcut _).append ((htoken _ hbehind).append (hfront rest hrest))

end Scim.Filter
