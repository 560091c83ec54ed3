import Scim.Filter.Compile
import Scim.Proofs.Filter.Truncation
import Scim.Proofs.Json.Decoding

/-!
Nothing of an expression is lost when it is cut into tokens: they stand in it one behind the other, with nothing but
blanks around them.
-/

namespace Scim.Filter

/-- A token as it stands in an expression; the end of the expression is one, without a lexeme. -/
structure Mark where
  lexeme : Option Lexeme
  text : List Char
  position : Nat

namespace Mark

/-- The number of characters in front of what follows the token. -/
def stop (m : Mark) : Nat :=
  m.position + m.text.length

/-- Whether the token takes the character behind so many others. -/
def Takes (m : Mark) (index : Nat) : Prop :=
  m.position ≤ index ∧ index < m.stop

end Mark

def Token.mark (t : Token) : Mark :=
  ⟨some t.lexeme, t.text, t.position⟩

def endMark (size : Nat) : Mark :=
  ⟨none, [], size⟩

/-- The tokens of an expression, and its end. -/
def marks (cs : List Char) : Except LexicalError (List Mark) :=
  (tokens cs).map fun ts => ts.map Token.mark ++ [endMark cs.length]

/-- Tokens that make up a text, with blanks between and around them and an end behind them. -/
inductive Covers : Nat → List Char → List Mark → Prop
  | finish (position : Nat) : Covers position [] [endMark position]
  | blank {position : Nat} {c : Char} {cs : List Char} {ms : List Mark} (hblank : Text.isBlank c = true)
    (h : Covers (position + 1) cs ms) : Covers position (c :: cs) ms
  | token {t : Token} {cs : List Char} {ms : List Mark} (hne : t.text ≠ [])
    (h : Covers (t.position + t.text.length) cs ms) : Covers t.position (t.text ++ cs) (t.mark :: ms)

theorem covers_tokensFrom {position skip : Nat} {cs : List Char} {ts : List Token} (hskip : skip ≤ cs.length)
    (h : tokensFrom position skip cs = .ok ts) :
    Covers (position + skip) (cs.drop skip) (ts.map Token.mark ++ [endMark (position + cs.length)]) := by
  induction cs generalizing position skip ts with
  | nil =>
    obtain rfl := Nat.le_zero.mp hskip
    rw [tokensFrom] at h
    obtain rfl := Except.ok.inj h
    exact .finish position
  | cons c rest ih =>
    have hsize : position + (c :: rest).length = position + 1 + rest.length := by
      rw [List.length_cons]
      omega
    rw [hsize]
    cases skip with
    | succ skip =>
      rw [tokensFrom] at h
      rw [List.drop_succ_cons, ← Nat.add_assoc, Nat.add_right_comm]
      exact ih (Nat.le_of_succ_le_succ hskip) h
    | zero =>
      rw [tokensFrom] at h
      by_cases hblank : Text.isBlank c = true
      · rw [if_pos hblank] at h
        exact .blank hblank (ih (Nat.zero_le _) h)
      · rw [if_neg hblank] at h
        simp only [Except.bind_eq_ok_iff] at h
        obtain ⟨t, hread, us, hmore, hpair⟩ := h
        obtain rfl := Except.ok.inj hpair
        obtain ⟨more, behind, rfl, htext, rfl, -⟩ := readToken_again hread
        have hlength : t.text.length = 1 + more.length := by rw [htext, List.length_cons, Nat.add_comm]
        rw [hlength, Nat.add_sub_cancel_left] at hmore
        have hbehind := ih (by rw [List.length_append]; omega) hmore
        rw [List.drop_left, Nat.add_assoc, ← hlength] at hbehind
        have hsplit : c :: (more ++ behind) = t.text ++ behind := by rw [htext, List.cons_append]
        rw [Nat.add_zero, List.drop_zero, hsplit]
        exact .token (by rw [htext]; exact List.cons_ne_nil c more) hbehind

theorem covers_marks {cs : List Char} {ms : List Mark} (h : marks cs = .ok ms) : Covers 0 cs ms := by
  obtain ⟨ts, hts, rfl⟩ := Except.map_eq_ok_iff.mp h
  have hcovers := covers_tokensFrom (Nat.zero_le _) hts
  rwa [Nat.zero_add, List.drop_zero, Nat.zero_add] at hcovers

/-! What tokens that make up a text are like. -/

namespace Covers

variable {position : Nat} {cs : List Char} {ms : List Mark}

theorem position_le (h : Covers position cs ms) : ∀ m ∈ ms, position ≤ m.position := by
  induction h with
  | finish position => simp [endMark]
  | blank _ _ ih => exact fun m hm => Nat.le_of_succ_le (ih m hm)
  | token _ _ ih =>
    refine List.forall_mem_cons.mpr ⟨Nat.le_refl _, fun m hm => ?_⟩
    exact Nat.le_trans (Nat.le_add_right _ _) (ih m hm)

theorem pairwise_position (h : Covers position cs ms) : ms.Pairwise fun m m' => m.position < m'.position := by
  induction h with
  | finish position => exact List.pairwise_singleton _ _
  | blank _ _ ih => exact ih
  | @token t _ _ hne h ih =>
    refine List.pairwise_cons.mpr ⟨fun m hm => ?_, ih⟩
    have hlength : 0 < t.text.length := List.length_pos_of_ne_nil hne
    have hle := h.position_le m hm
    show t.position < m.position
    omega

theorem pairwise_stop (h : Covers position cs ms) : ms.Pairwise fun m m' => m.stop ≤ m'.position := by
  induction h with
  | finish position => exact List.pairwise_singleton _ _
  | blank _ _ ih => exact ih
  | token _ h ih => exact List.pairwise_cons.mpr ⟨h.position_le, ih⟩

theorem slice (h : Covers position cs ms) :
    ∀ m ∈ ms, m.stop ≤ position + cs.length ∧
      m.text = (cs.drop (m.position - position)).take m.text.length := by
  induction h with
  | finish position => simp [endMark, Mark.stop]
  | @blank position c cs ms _ h ih =>
    intro m hm
    obtain ⟨hstop, htext⟩ := ih m hm
    have hle := h.position_le m hm
    refine ⟨by rw [List.length_cons]; omega, ?_⟩
    have hindex : m.position - position = m.position - (position + 1) + 1 := by omega
    rwa [hindex, List.drop_succ_cons]
  | @token t cs ms _ h ih =>
    refine List.forall_mem_cons.mpr ⟨⟨?_, ?_⟩, fun m hm => ?_⟩
    · rw [List.length_append, ← Nat.add_assoc]
      exact Nat.le_add_right _ _
    · show t.text = ((t.text ++ cs).drop (t.position - t.position)).take t.text.length
      rw [Nat.sub_self, List.drop_zero, List.take_left]
    · obtain ⟨hstop, htext⟩ := ih m hm
      have hle := h.position_le m hm
      refine ⟨by rw [List.length_append]; omega, ?_⟩
      have hindex : m.position - t.position = t.text.length + (m.position - (t.position + t.text.length)) := by omega
      rwa [hindex, List.drop_length_add_append]

theorem isBlank_of_not_takes (h : Covers position cs ms) :
    ∀ index c, cs[index]? = some c → (∀ m ∈ ms, ¬m.Takes (position + index)) → Text.isBlank c = true := by
  induction h with
  | finish position => simp
  | @blank position c cs ms hblank _ ih =>
    intro index d hd hnone
    cases index with
    | zero =>
      obtain rfl := Option.some.inj hd
      exact hblank
    | succ index =>
      rw [Nat.add_comm index, ← Nat.add_assoc] at hnone
      exact ih index d hd hnone
  | @token t cs ms _ _ ih =>
    intro index d hd hnone
    obtain ⟨hfirst, hmore⟩ := List.forall_mem_cons.mp hnone
    by_cases hindex : index < t.text.length
    · exact absurd ⟨Nat.le_add_right _ _, Nat.add_lt_add_left hindex _⟩ hfirst
    · obtain ⟨further, rfl⟩ := Nat.exists_eq_add_of_le (Nat.le_of_not_lt hindex)
      rw [List.getElem?_append_right (Nat.le_add_right _ _), Nat.add_sub_cancel_left] at hd
      rw [← Nat.add_assoc] at hmore
      exact ih further d hd hmore

end Covers

/-! Where cutting fails. -/

theorem readStringToken_error {position : Nat} {rest : List Char} {e : LexicalError}
    (h : readStringToken position ('"' :: rest) = .error e) : e.position ≤ position + (rest.length + 1) := by
  unfold readStringToken at h
  simp only [List.drop_one, List.tail_cons, List.take_succ_cons] at h
  split at h
  · obtain rfl := Except.error.inj h
    exact Nat.le_add_right _ _
  · rename_i length _
    split at h
    · exact nomatch h
    · rename_i fault hread
      obtain rfl := Except.error.inj h
      have hposition := Json.position_of_readStringBody (Nat.zero_le 1) hread
      rw [List.length_take] at hposition
      show position + fault.position ≤ _
      omega

theorem readNumberToken_error {position : Nat} {c : Char} {cs : List Char} {e : LexicalError}
    (h : readNumberToken position c cs = .error e) : e.position = position := by
  unfold readNumberToken at h
  split at h
  · rw [← Except.error.inj h]
  · dsimp only at h
    split at h
    · exact nomatch h
    · rw [← Except.error.inj h]

theorem readToken_error {position : Nat} {c : Char} {rest : List Char} {e : LexicalError}
    (h : readToken position c rest = .error e) : e.position ≤ position + (rest.length + 1) := by
  unfold readToken at h
  split at h
  · exact nomatch h
  split at h
  · exact nomatch h
  split at h
  · exact nomatch h
  split at h
  · exact nomatch h
  split at h
  · rename_i hquote
    subst hquote
    exact readStringToken_error h
  split at h
  · rw [readNumberToken_error h]
    exact Nat.le_add_right _ _
  split at h
  · exact nomatch h
  · obtain rfl := Except.error.inj h
    exact Nat.le_add_right _ _

theorem tokensFrom_error {position skip : Nat} {cs : List Char} {e : LexicalError}
    (h : tokensFrom position skip cs = .error e) : e.position ≤ position + cs.length := by
  induction cs generalizing position skip with
  | nil =>
    rw [tokensFrom] at h
    cases h
  | cons c rest ih =>
    have hnext : position + 1 + rest.length = position + (c :: rest).length := by
      rw [List.length_cons]
      omega
    rw [← hnext]
    cases skip with
    | succ skip => exact ih h
    | zero =>
      rw [tokensFrom] at h
      split at h
      · exact ih h
      · rcases Except.bind_eq_error_iff.mp h with hread | ⟨t, -, h⟩
        · have hposition := readToken_error hread
          omega
        · rcases Except.bind_eq_error_iff.mp h with hmore | ⟨_, _, h⟩
          · exact ih hmore
          · cases h

/-- Cutting an expression into tokens loses nothing of it.  Where it fails, it fails at a position in the expression,
and so does reading it.  Otherwise the tokens stand one behind the other; each is the text at its position; they do
not overlap, and what none of them takes is blank; and the last one, and no other, is the end of the expression. -/
theorem marks_lossless (s : String) :
    (∀ e, marks s.toList = .error e → e.position ≤ s.length ∧
      ∀ limit, parse limit s = .error (.filterSyntax e.fault.message e.position)) ∧
    ∀ ms, marks s.toList = .ok ms →
      (∃ ts, tokens s.toList = .ok ts ∧ ms = ts.map Token.mark ++ [endMark s.length]) ∧
      ms.Pairwise (fun m m' => m.position < m'.position) ∧
      (∀ m ∈ ms, m.stop ≤ s.length ∧ m.text = (s.toList.drop m.position).take m.text.length) ∧
      ms.Pairwise (fun m m' => m.stop ≤ m'.position) ∧
      ∀ index c, s.toList[index]? = some c → (∀ m ∈ ms, ¬m.Takes index) → Text.isBlank c = true := by
  have hlength : s.toList.length = s.length := String.length_toList
  refine ⟨fun e he => ?_, fun ms hms => ?_⟩
  · have htokens : tokens s.toList = .error e := by
      unfold marks at he
      cases htokens : tokens s.toList with
      | error e' =>
        rw [htokens] at he
        exact congrArg Except.error (Except.error.inj he)
      | ok ts =>
        rw [htokens] at he
        exact nomatch he
    have hposition := tokensFrom_error htokens
    rw [Nat.zero_add, hlength] at hposition
    refine ⟨hposition, fun limit => ?_⟩
    rw [parse, read, htokens]
    rfl
  · have hcovers := covers_marks hms
    obtain ⟨ts, hts, rfl⟩ := Except.map_eq_ok_iff.mp hms
    refine ⟨⟨ts, hts, by rw [hlength]⟩, hcovers.pairwise_position, fun m hm => ?_, hcovers.pairwise_stop,
      fun index c hc hnone => hcovers.isBlank_of_not_takes index c hc ?_⟩
    · have hslice := hcovers.slice m hm
      rwa [Nat.zero_add, Nat.sub_zero, hlength] at hslice
    · rwa [Nat.zero_add]

example : marks " a pr".toList = .ok [⟨some .word, ['a'], 1⟩, ⟨some .word, "pr".toList, 3⟩, endMark 5] := by
  rfl

end Scim.Filter
