import Scim.Proofs.Json.Grammar
import Scim.Proofs.Outcome

/-!
The reader of string literals: it reads what the grammar derives, and fails within the text.
-/

namespace Scim.Json

theorem lookup_shortEscapes {letter c : Char} (h : shortEscape? letter = some c) :
    shortEscapes.lookup letter = some c := by
  unfold shortEscape? at h
  split at h <;> first | exact h | exact nomatch h

theorem isHex_of_codeUnit? {cs rest : List Char} {n : Nat} (h : codeUnit? cs = some (n, rest)) :
    ∃ digits, IsHex digits n ∧ cs = digits ++ rest := by
  unfold codeUnit? at h
  split at h
  · rename_i a b c d behind
    split at h
    · cases h
    · simp only [Option.bind_eq_bind, Option.bind_eq_some_iff] at h
      obtain ⟨i, ha, j, hb, k, hc, l, hd, h⟩ := h
      obtain ⟨rfl, rfl⟩ := Prod.mk.inj (Option.some.inj h)
      exact ⟨[a, b, c, d], ⟨a, b, c, d, i, j, k, l, rfl, ha, hb, hc, hd, rfl⟩, rfl⟩
  · cases h

theorem codeUnit?_of_isHex {digits rest : List Char} {n : Nat} (h : IsHex digits n) (hrest : rest ≠ []) :
    codeUnit? (digits ++ rest) = some (n, rest) := by
  obtain ⟨a, b, c, d, i, j, k, l, rfl, ha, hb, hc, hd, rfl⟩ := h
  have hempty : rest.isEmpty = false := List.isEmpty_eq_false_iff.mpr hrest
  simp only [List.cons_append, List.nil_append, codeUnit?, hempty, ha, hb, hc, hd, Option.bind_eq_bind,
    Option.bind_some]
  rfl

theorem Spells.append {text more : List Char} {es fs : List Element} (h : Spells text es) (hmore : Spells more fs) :
    Spells (text ++ more) (es ++ fs) := by
  induction h with
  | nil => exact hmore
  | char hquote hbackslash _ ih => exact .char hquote hbackslash ih
  | escape hletter _ ih => exact .escape hletter ih
  | unit hdigits _ ih =>
    simp only [List.cons_append, List.append_assoc]
    exact .unit hdigits ih

theorem join_unit {n : Nat} {fs : List Element}
    (h : ∀ m more, fs = .unit m :: more → (isHighSurrogate n && isLowSurrogate m) = false) :
    join (.unit n :: fs) = charOfUnit n :: join fs := by
  cases fs with
  | nil => rfl
  | cons e more =>
    cases e with
    | char c => rfl
    | unit m => rw [join, h m more rfl, if_neg Bool.false_ne_true]

/-- The reader meets a character that a text spells.  Behind it the string goes on as if nothing had been in front: a
high surrogate is taken alone only where no low one follows. -/
structure Reads (cs text : List Char) (es : List Element) (c : Char) (rest : List Char) : Prop where
  eq_append : cs = text ++ rest
  spells : Spells text es
  joins : ∀ tail fs behind, rest = tail ++ '"' :: behind → Spells tail fs → join (es ++ fs) = c :: join fs

theorem reads_char {c : Char} {text rest : List Char} (h : Spells text [.char c]) :
    Reads (text ++ rest) text [.char c] c rest :=
  ⟨rfl, h, fun _ _ _ _ _ => rfl⟩

theorem spells_unit {digits : List Char} {n : Nat} (h : IsHex digits n) :
    Spells ('\\' :: 'u' :: digits) [.unit n] := by
  rw [← List.append_nil digits]
  exact .unit h .nil

theorem reads_unit {digits rest : List Char} {n : Nat} (h : IsHex digits n)
    (hlone : isHighSurrogate n = true → ∀ low m more, IsHex low m → more ≠ [] →
      rest = '\\' :: 'u' :: (low ++ more) → isLowSurrogate m = false) :
    Reads ('\\' :: 'u' :: (digits ++ rest)) ('\\' :: 'u' :: digits) [.unit n] (charOfUnit n) rest := by
  refine ⟨rfl, spells_unit h, fun tail fs behind hrest htail => join_unit ?_⟩
  rintro m more rfl
  refine Bool.eq_false_iff.mpr fun hpair => ?_
  rw [Bool.and_eq_true] at hpair
  cases htail with
  | @unit low text _ _ hlow _ =>
    have hne : text ++ '"' :: behind ≠ [] := by simp
    have hm := hlone hpair.1 low m _ hlow hne (by rw [hrest]; simp)
    exact nomatch hm.symm.trans hpair.2

theorem reads_pair {digits low rest : List Char} {n m : Nat} (h : IsHex digits n) (hlow : IsHex low m)
    (hpair : (isHighSurrogate n && isLowSurrogate m) = true) :
    Reads ('\\' :: 'u' :: (digits ++ '\\' :: 'u' :: (low ++ rest)))
      ('\\' :: 'u' :: (digits ++ '\\' :: 'u' :: low)) [.unit n, .unit m] (charOfPair n m) rest := by
  refine ⟨by simp, .unit h (spells_unit hlow), fun tail fs behind _ _ => ?_⟩
  show join (.unit n :: .unit m :: fs) = _
  rw [join, if_pos hpair]

theorem reads_of_afterHighSurrogate {digits rest behind : List Char} {n width : Nat} {c : Char}
    (hdigits : IsHex digits n) (hhigh : isHighSurrogate n = true)
    (h : afterHighSurrogate n rest = .char c width behind) :
    ∃ text es, text.length = width ∧ Reads ('\\' :: 'u' :: (digits ++ rest)) text es c behind := by
  have hlength : ('\\' :: 'u' :: digits).length = 6 := by rw [List.length_cons, List.length_cons, hdigits.length_eq]
  unfold afterHighSurrogate at h
  split at h
  · rename_i more
    split at h
    · rename_i hempty
      obtain ⟨rfl, rfl, rfl⟩ := Piece.char.inj h
      refine ⟨_, _, hlength, reads_unit hdigits fun _ low m rest hlow hrest heq => ?_⟩
      -- too short for a code unit
      obtain rfl := (List.cons.inj (List.cons.inj heq).2).2
      rw [← hlow.length_eq, List.drop_left, List.isEmpty_iff] at hempty
      exact absurd hempty hrest
    · split at h
      · cases h
      · rename_i low behind hunit
        obtain ⟨lowDigits, hlow, rfl⟩ := isHex_of_codeUnit? hunit
        split at h
        · rename_i hpair
          obtain ⟨rfl, rfl, rfl⟩ := Piece.char.inj h
          refine ⟨_, _, ?_, reads_pair hdigits hlow (by rw [hhigh, hpair, Bool.and_self])⟩
          rw [← List.cons_append, ← List.cons_append, List.length_append, hlength, List.length_cons,
            List.length_cons, hlow.length_eq]
        · rename_i hpair
          obtain ⟨rfl, rfl, rfl⟩ := Piece.char.inj h
          refine ⟨_, _, hlength, reads_unit hdigits fun _ other m rest hother hrest heq => ?_⟩
          rw [(List.cons.inj (List.cons.inj heq).2).2, codeUnit?_of_isHex hother hrest] at hunit
          obtain ⟨rfl, -⟩ := Prod.mk.inj (Option.some.inj hunit)
          exact Bool.eq_false_iff.mpr hpair
  · rename_i hother
    obtain ⟨rfl, rfl, rfl⟩ := Piece.char.inj h
    exact ⟨_, _, hlength, reads_unit hdigits fun _ low m rest _ _ heq => absurd heq (hother _)⟩

theorem reads_of_nextPiece {strict : Bool} {cs rest : List Char} {c : Char} {width : Nat}
    (h : nextPiece strict cs = .char c width rest) :
    ∃ text es, text.length = width ∧ Reads cs text es c rest := by
  unfold nextPiece at h
  split at h
  · cases h
  · cases h
  · cases h
  · -- a code unit
    split at h
    · cases h
    · rename_i unit behind hunit
      obtain ⟨digits, hdigits, rfl⟩ := isHex_of_codeUnit? hunit
      split at h
      · rename_i hhigh
        exact reads_of_afterHighSurrogate hdigits hhigh h
      · rename_i hhigh
        obtain ⟨rfl, rfl, rfl⟩ := Piece.char.inj h
        refine ⟨_, _, ?_, reads_unit hdigits fun hhigh' => absurd hhigh' hhigh⟩
        rw [List.length_cons, List.length_cons, hdigits.length_eq]
  · -- a letter behind a backslash
    split at h
    · rename_i hletter
      obtain ⟨rfl, rfl, rfl⟩ := Piece.char.inj h
      exact ⟨_, _, rfl, reads_char (.escape (lookup_shortEscapes hletter) .nil)⟩
    · cases h
  · rename_i d behind hquote hend _ hletter
    split at h
    · cases h
    · obtain ⟨rfl, rfl, rfl⟩ := Piece.char.inj h
      have hbackslash : d ≠ '\\' := by
        intro hd
        cases behind with
        | nil => exact hend hd rfl
        | cons letter more => exact hletter letter more hd rfl
      exact ⟨_, _, rfl, reads_char (.char hquote hbackslash .nil)⟩

-- The fault is met behind the escape of the high surrogate.
theorem ahead_of_afterHighSurrogate {n ahead : Nat} {rest : List Char} {f : Fault}
    (h : afterHighSurrogate n rest = .fault f ahead) : ahead ≤ 6 + rest.length := by
  unfold afterHighSurrogate at h
  split at h
  · split at h
    · cases h
    · split at h
      · obtain ⟨-, rfl⟩ := Piece.fault.inj h
        simp only [List.length_cons]
        omega
      · split at h <;> cases h
  · cases h

/-- A fault is met within the text. -/
theorem ahead_of_nextPiece {strict : Bool} {cs : List Char} {f : Fault} {ahead : Nat}
    (h : nextPiece strict cs = .fault f ahead) : ahead ≤ cs.length := by
  unfold nextPiece at h
  split at h
  · obtain ⟨-, rfl⟩ := Piece.fault.inj h
    exact Nat.zero_le _
  · cases h
  · obtain ⟨-, rfl⟩ := Piece.fault.inj h
    exact Nat.zero_le _
  · split at h
    · obtain ⟨-, rfl⟩ := Piece.fault.inj h
      simp
    · rename_i unit behind hunit
      obtain ⟨digits, hdigits, rfl⟩ := isHex_of_codeUnit? hunit
      split at h
      · have hbehind := ahead_of_afterHighSurrogate h
        have hlength := hdigits.length_eq
        simp only [List.length_cons, List.length_append]
        omega
      · cases h
  · split at h
    · cases h
    · obtain ⟨-, rfl⟩ := Piece.fault.inj h
      exact Nat.zero_le _
  · split at h
    · obtain ⟨-, rfl⟩ := Piece.fault.inj h
      exact Nat.zero_le _
    · cases h

theorem nextPiece_close {strict : Bool} {cs rest : List Char} (h : nextPiece strict cs = .close rest) :
    cs = '"' :: rest := by
  unfold nextPiece at h
  split at h
  · cases h
  · rw [Piece.close.inj h]
  · cases h
  · split at h
    · cases h
    · split at h
      · unfold afterHighSurrogate at h
        repeat' split at h
        all_goals cases h
      · cases h
  · split at h <;> cases h
  · split at h <;> cases h

/-- What the reader of a string gives: the text in front of its closing quote is a spelling of it. -/
theorem spells_of_readStringBody {strict : Bool} {start fuel position : Nat} {cs content rest : List Char}
    (h : readStringBody strict start fuel position cs = .ok (content, rest)) :
    ∃ text es, cs = text ++ '"' :: rest ∧ Spells text es ∧ join es = content := by
  induction fuel generalizing position cs content with
  | zero => exact nomatch h
  | succ fuel ih =>
    rw [readStringBody] at h
    split at h
    · rename_i behind hpiece
      obtain ⟨rfl, rfl⟩ := Prod.mk.inj (Except.ok.inj h)
      exact ⟨[], [], nextPiece_close hpiece, .nil, rfl⟩
    · rename_i c width behind hpiece
      obtain ⟨⟨tail, last⟩, hbody, h⟩ := Except.bind_eq_ok_iff.mp h
      obtain ⟨rfl, rfl⟩ := Prod.mk.inj (Except.ok.inj h)
      obtain ⟨text, es, -, hreads⟩ := reads_of_nextPiece hpiece
      obtain ⟨more, fs, rfl, hmore, rfl⟩ := ih hbody
      refine ⟨text ++ more, es ++ fs, ?_, hreads.spells.append hmore, hreads.joins more fs last rfl hmore⟩
      rw [hreads.eq_append, List.append_assoc]
    · exact nomatch h
    · exact nomatch h

theorem position_of_readStringBody {strict : Bool} {start fuel position : Nat} {cs : List Char} {e : FaultAt}
    (hstart : start ≤ position) (h : readStringBody strict start fuel position cs = .error e) :
    e.position ≤ position + cs.length := by
  induction fuel generalizing position cs with
  | zero =>
    obtain rfl := Except.error.inj h
    exact Nat.le_trans hstart (Nat.le_add_right _ _)
  | succ fuel ih =>
    rw [readStringBody] at h
    split at h
    · exact nomatch h
    · rename_i c width behind hpiece
      obtain ⟨text, es, rfl, hreads⟩ := reads_of_nextPiece hpiece
      rw [hreads.eq_append, List.length_append, ← Nat.add_assoc]
      rcases Except.bind_eq_error_iff.mp h with hbody | ⟨_, _, h⟩
      · exact ih (Nat.le_trans hstart (Nat.le_add_right _ _)) hbody
      · exact nomatch h
    · obtain rfl := Except.error.inj h
      exact Nat.le_trans hstart (Nat.le_add_right _ _)
    · rename_i hpiece
      obtain rfl := Except.error.inj h
      exact Nat.add_le_add_left (ahead_of_nextPiece hpiece) position

end Scim.Json
