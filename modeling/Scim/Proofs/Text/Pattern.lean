import Mathlib.Computability.Language
import Scim.Text.Pattern

/-!
The texts of a pattern as a language, and that a text is accepted exactly if it is in it.
-/

namespace Scim.Text.Pattern

/-- The texts that a pattern stands for. -/
def language : Pattern → Language Char
  | never => 0
  | empty => 1
  | one holds => {[c] | (c) (_ : holds c = true)}
  | either p q => p.language + q.language
  | seq p q => p.language * q.language
  | many p => KStar.kstar p.language

variable {p q : Pattern} {c : Char} {cs : List Char}

@[simp] theorem not_mem_never : cs ∉ never.language := Language.notMem_zero cs

@[simp] theorem mem_empty : cs ∈ empty.language ↔ cs = [] := Language.mem_one cs

@[simp] theorem mem_one {holds : Char → Bool} :
    cs ∈ (one holds).language ↔ ∃ c, holds c = true ∧ cs = [c] := by
  constructor
  · rintro ⟨c, hc, rfl⟩
    exact ⟨c, hc, rfl⟩
  · rintro ⟨c, hc, rfl⟩
    exact ⟨c, hc, rfl⟩

@[simp] theorem mem_either : cs ∈ (either p q).language ↔ cs ∈ p.language ∨ cs ∈ q.language :=
  Language.mem_add _ _ _

theorem mem_seq : cs ∈ (seq p q).language ↔ ∃ front ∈ p.language, ∃ rest ∈ q.language, front ++ rest = cs :=
  Language.mem_mul

theorem mem_many : cs ∈ (many p).language ↔ ∃ parts, cs = List.flatten parts ∧ ∀ part ∈ parts, part ∈ p.language :=
  Language.mem_kstar

theorem mem_literal {text : List Char} : cs ∈ (literal text).language ↔ cs = text := by
  induction text generalizing cs with
  | nil => exact mem_empty
  | cons d rest ih =>
    rw [literal, mem_seq]
    simp only [mem_one, decide_eq_true_eq, ih]
    constructor
    · rintro ⟨_, ⟨d, rfl, rfl⟩, _, rfl, rfl⟩
      rfl
    · rintro rfl
      exact ⟨[d], ⟨d, rfl, rfl⟩, rest, rfl, rfl⟩

theorem matchesEmpty_iff : p.matchesEmpty = true ↔ [] ∈ p.language := by
  induction p with
  | never => exact ⟨fun h => Bool.noConfusion h, fun h => absurd h not_mem_never⟩
  | empty => exact ⟨fun _ => mem_empty.mpr rfl, fun _ => rfl⟩
  | one holds => simp [matchesEmpty]
  | either p q ihp ihq => rw [matchesEmpty, Bool.or_eq_true, ihp, ihq, mem_either]
  | seq p q ihp ihq =>
    rw [matchesEmpty, Bool.and_eq_true, ihp, ihq, mem_seq]
    constructor
    · rintro ⟨hp, hq⟩
      exact ⟨[], hp, [], hq, rfl⟩
    · rintro ⟨front, hp, rest, hq, h⟩
      obtain ⟨rfl, rfl⟩ := List.append_eq_nil_iff.mp h
      exact ⟨hp, hq⟩
  | many p => exact ⟨fun _ => Language.nil_mem_kstar _, fun _ => rfl⟩

theorem language_orElse : (p.orElse q).language = (either p q).language := by
  unfold orElse
  split
  · exact (zero_add _).symm
  · exact (add_zero _).symm
  · rfl

theorem language_andThen : (p.andThen q).language = (seq p q).language := by
  unfold andThen
  split
  · exact (zero_mul _).symm
  · exact (one_mul _).symm
  · rfl

-- A sequence behind a character: it is the first part's, or the first part is empty.
theorem cons_mem_seq : c :: cs ∈ (seq p q).language ↔
    (∃ front, c :: front ∈ p.language ∧ ∃ rest ∈ q.language, front ++ rest = cs) ∨
      ([] ∈ p.language ∧ c :: cs ∈ q.language) := by
  rw [mem_seq]
  constructor
  · rintro ⟨front, hp, rest, hq, h⟩
    cases front with
    | nil =>
      obtain rfl : rest = c :: cs := h
      exact .inr ⟨hp, hq⟩
    | cons d front =>
      obtain ⟨rfl, rfl⟩ := List.cons.inj h
      exact .inl ⟨front, hp, rest, hq, rfl⟩
  · rintro (⟨front, hp, rest, hq, rfl⟩ | ⟨hp, hq⟩)
    · exact ⟨c :: front, hp, rest, hq, rfl⟩
    · exact ⟨[], hp, c :: cs, hq, rfl⟩

theorem cons_mem_many : c :: cs ∈ (many p).language ↔
    ∃ front, c :: front ∈ p.language ∧ ∃ rest ∈ (many p).language, front ++ rest = cs := by
  constructor
  · intro h
    obtain ⟨parts, hparts, hall⟩ := Language.mem_kstar_iff_exists_nonempty.mp h
    cases parts with
    | nil => cases hparts
    | cons part parts =>
      obtain ⟨hpart, hne⟩ := hall part List.mem_cons_self
      obtain ⟨d, front, rfl⟩ := List.exists_cons_of_ne_nil hne
      obtain ⟨rfl, rfl⟩ := List.cons.inj hparts
      exact ⟨front, hpart, parts.flatten,
        mem_many.mpr ⟨parts, rfl, fun l hl => (hall l (List.mem_cons_of_mem _ hl)).1⟩, rfl⟩
  · rintro ⟨front, hfront, rest, hrest, rfl⟩
    obtain ⟨parts, rfl, hall⟩ := mem_many.mp hrest
    exact mem_many.mpr ⟨(c :: front) :: parts, rfl, List.forall_mem_cons.mpr ⟨hfront, hall⟩⟩

/-- What is left of a pattern behind a character are its texts that start with it. -/
theorem mem_behind : cs ∈ (p.behind c).language ↔ c :: cs ∈ p.language := by
  induction p generalizing cs with
  | never => exact iff_of_false not_mem_never not_mem_never
  | empty => simp [behind]
  | one holds =>
    rw [behind]
    split
    · simp_all
    · simp_all
  | either p q ihp ihq => rw [behind, language_orElse, mem_either, mem_either, ihp, ihq]
  | seq p q ihp ihq =>
    have hfirst : cs ∈ ((p.behind c).andThen q).language ↔
        ∃ front, c :: front ∈ p.language ∧ ∃ rest ∈ q.language, front ++ rest = cs := by
      simp only [language_andThen, mem_seq, ihp]
    rw [behind, cons_mem_seq, ← hfirst]
    split
    · next h => rw [language_orElse, mem_either, ihq, and_iff_right (matchesEmpty_iff.mp h)]
    · next h => rw [or_iff_left (fun hq => h (matchesEmpty_iff.mpr hq.1))]
  | many p ih => simp only [behind, language_andThen, mem_seq, ih, cons_mem_many]

/-- A pattern accepts exactly its texts. -/
theorem accepts_iff : p.accepts cs = true ↔ cs ∈ p.language := by
  induction cs generalizing p with
  | nil => exact matchesEmpty_iff
  | cons c rest ih => exact ih.trans mem_behind

/-! Patterns over one class of characters. -/

variable {holds : Char → Bool}

theorem mem_many_one : cs ∈ (many (one holds)).language ↔ cs.all holds = true := by
  rw [List.all_eq_true]
  induction cs with
  | nil => simp [← matchesEmpty_iff, matchesEmpty]
  | cons c rest ih =>
    rw [cons_mem_many, List.forall_mem_cons, ← ih]
    constructor
    · rintro ⟨front, hfront, rest, hrest, rfl⟩
      obtain ⟨d, hd, hcons⟩ := mem_one.mp hfront
      obtain ⟨rfl, rfl⟩ := List.cons.inj hcons
      exact ⟨hd, hrest⟩
    · rintro ⟨hc, hrest⟩
      exact ⟨[], mem_one.mpr ⟨c, hc, rfl⟩, rest, hrest, rfl⟩

theorem mem_one_seq : cs ∈ (seq (one holds) p).language ↔
    ∃ c rest, holds c = true ∧ rest ∈ p.language ∧ cs = c :: rest := by
  rw [mem_seq]
  constructor
  · rintro ⟨front, hfront, rest, hrest, rfl⟩
    obtain ⟨c, hc, rfl⟩ := mem_one.mp hfront
    exact ⟨c, rest, hc, hrest, rfl⟩
  · rintro ⟨c, rest, hc, hrest, rfl⟩
    exact ⟨[c], mem_one.mpr ⟨c, hc, rfl⟩, rest, hrest, rfl⟩

theorem mem_oneOrMore_one : cs ∈ (oneOrMore (one holds)).language ↔ cs ≠ [] ∧ cs.all holds = true := by
  rw [oneOrMore, mem_one_seq]
  constructor
  · rintro ⟨c, rest, hc, hrest, rfl⟩
    exact ⟨List.cons_ne_nil _ _, by rw [List.all_cons, hc, mem_many_one.mp hrest]; rfl⟩
  · rintro ⟨hne, hall⟩
    obtain ⟨c, rest, rfl⟩ := List.exists_cons_of_ne_nil hne
    rw [List.all_cons, Bool.and_eq_true] at hall
    exact ⟨c, rest, hall.1, mem_many_one.mpr hall.2, rfl⟩

end Scim.Text.Pattern
