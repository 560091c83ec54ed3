import Scim.Proofs.Filter.Coverage
import Scim.Proofs.Json.Numerals

/-!
The literals of a filter: what stands for them in the expression, and that JSON gives it the same values.  Numbers may
be written in the digits of any script, of which JSON has only those of ASCII.
-/

namespace Scim.Filter

open Scim.Json (IsAscii asciiDigit)

/-! Strings end where their literals do. -/

theorem stringLength?_plain {c : Char} (hquote : c ≠ '"') (hbackslash : c ≠ '\\') (rest : List Char) :
    stringLength? (c :: rest) = (stringLength? rest).map (· + 1) := by
  rw [stringLength?]
  · exact hquote
  · exact fun _ _ heq _ => hbackslash heq

theorem stringLength?_hex {digits : List Char} {n : Nat} (h : Json.IsHex digits n) (rest : List Char) :
    stringLength? (digits ++ rest) = (stringLength? rest).map (· + 4) := by
  have hne : ∀ {c : Char} {value : Nat}, Json.hexValue? c = some value → c ≠ '"' ∧ c ≠ '\\' := by
    refine fun hc => ⟨?_, ?_⟩ <;> rintro rfl <;> exact nomatch hc
  obtain ⟨a, b, c, d, i, j, k, l, rfl, ha, hb, hc, hd, -⟩ := h
  simp only [List.cons_append, List.nil_append, stringLength?_plain (hne ha).1 (hne ha).2,
    stringLength?_plain (hne hb).1 (hne hb).2, stringLength?_plain (hne hc).1 (hne hc).2,
    stringLength?_plain (hne hd).1 (hne hd).2, Option.map_map]
  rfl

-- The closing quote that ends a string is the one that its spelling stops at.
theorem stringLength?_spells {text : List Char} {es : List Json.Element} (h : Json.Spells text es)
    (rest : List Char) : stringLength? (text ++ '"' :: rest) = some (text.length + 1) := by
  induction h with
  | nil => rfl
  | char hquote hbackslash _ ih =>
    rw [List.cons_append, stringLength?_plain hquote hbackslash, ih]
    rfl
  | escape _ _ ih =>
    rw [List.cons_append, List.cons_append, stringLength?, ih]
    rfl
  | unit hdigits _ ih =>
    rw [List.cons_append, List.cons_append, List.append_assoc, stringLength?, stringLength?_hex hdigits, ih]
    simp only [Option.map_some, List.length_cons, List.length_append, hdigits.length_eq]
    congr 1
    omega

/-! The literals among the tokens. -/

/-- The text of a literal, with the digits of numbers in ASCII. -/
def Token.plainText (t : Token) (v : Value) : List Char :=
  if v.isNumeric then t.text.map asciiDigit else t.text

theorem denotes_readStringToken {position : Nat} {rest : List Char} {t : Token} {v : Value}
    (h : readStringToken position ('"' :: rest) = .ok t) (hv : t.literal? = some v) :
    Json.Denotes (t.plainText v) v := by
  unfold readStringToken at h
  simp only [List.drop_one, List.tail_cons, List.take_succ_cons] at h
  split at h
  · exact nomatch h
  · rename_i length hlength
    split at h
    · rename_i content behind hread
      obtain rfl := Except.ok.inj h
      obtain rfl := Option.some.inj hv
      obtain ⟨text, es, htext, hspells, rfl⟩ := Json.spells_of_readStringBody hread
      -- nothing is left behind the quote at which the decoder stops
      obtain ⟨hle, hagain⟩ := stringLength?_take hlength
      have hsame := hagain []
      rw [List.append_nil, htext, stringLength?_spells hspells] at hsame
      have hsize := congrArg List.length htext
      rw [List.length_take_of_le hle, List.length_append, List.length_cons] at hsize
      have hbehind : behind = [] := List.eq_nil_of_length_eq_zero (by have := Option.some.inj hsame; omega)
      subst hbehind
      show Json.Denotes ('"' :: rest.take length) _
      rw [htext]
      exact .string hspells
    · exact nomatch h

theorem denotes_readNumberToken {position : Nat} {c : Char} {cs : List Char} {t : Token} {v : Value}
    (h : readNumberToken position c cs = .ok t) (hv : t.literal? = some v) : Json.Denotes (t.plainText v) v := by
  unfold readNumberToken at h
  split at h
  · exact nomatch h
  · rename_i number rest hscan
    dsimp only at h
    split at h
    · rename_i w hvalue
      obtain rfl := Except.ok.inj h
      obtain rfl := Option.some.inj hv
      obtain ⟨text, rfl, hnumber⟩ := Json.number_of_scanNumber? hscan hvalue
      have htake : (text ++ rest).take ((text ++ rest).length - rest.length) = text :=
        List.take_left' (by rw [List.length_append]; omega)
      rw [Token.plainText, if_pos hnumber.isNumeric]
      simp only [htake]
      exact .number hnumber
    · exact nomatch h

theorem denotes_word {text : List Char} {position : Nat} {v : Value}
    (h : (⟨.word, text, position⟩ : Token).literal? = some v) :
    Json.Denotes ((⟨.word, text, position⟩ : Token).plainText v) v := by
  have hword : (text, v) ∈ Json.wordLiterals := by
    unfold Token.literal? at h
    dsimp only at h
    simp only [Json.wordLiterals, List.mem_cons, Prod.mk.injEq, List.not_mem_nil, or_false]
    split at h
    · rename_i htext
      exact .inr (.inl ⟨htext, (Option.some.inj h).symm⟩)
    split at h
    · rename_i htext
      exact .inr (.inr ⟨htext, (Option.some.inj h).symm⟩)
    split at h
    · rename_i htext
      exact .inl ⟨htext, (Option.some.inj h).symm⟩
    · cases h
  have hplain : (⟨.word, text, position⟩ : Token).plainText v = text := by
    unfold Token.plainText
    split
    · exact Json.map_asciiDigit (Json.isAscii_of_wordLiterals hword)
    · rfl
  rw [hplain]
  exact .word hword

theorem denotes_readToken {position : Nat} {c : Char} {rest : List Char} {t : Token} {v : Value}
    (h : readToken position c rest = .ok t) (hv : t.literal? = some v) : Json.Denotes (t.plainText v) v := by
  unfold readToken at h
  split at h
  · obtain rfl := Except.ok.inj h; exact nomatch hv
  split at h
  · obtain rfl := Except.ok.inj h; exact nomatch hv
  split at h
  · obtain rfl := Except.ok.inj h; exact nomatch hv
  split at h
  · obtain rfl := Except.ok.inj h; exact nomatch hv
  split at h
  · rename_i hquote
    subst hquote
    exact denotes_readStringToken h hv
  split at h
  · exact denotes_readNumberToken h hv
  split at h
  · obtain rfl := Except.ok.inj h
    exact denotes_word hv
  · exact nomatch h

/-- The text of a literal is one of JSON, for the same value only, unless it is a number in other digits. -/
theorem denotes_text_iff {t : Token} {v : Value} (h : Json.Denotes (t.plainText v) v) (w : Value) :
    Json.Denotes t.text w ↔ w = v ∧ (v.isNumeric = true → IsAscii t.text) := by
  unfold Token.plainText at h
  by_cases hnumeric : v.isNumeric = true
  · rw [if_pos hnumeric] at h
    constructor
    · intro hw
      have hascii : IsAscii t.text := by
        cases htext : t.text with
        | nil => exact Json.isAscii_nil
        | cons c more =>
          rw [htext] at hw h
          refine hw.isAscii ?_
          rintro rfl
          exact nomatch hnumeric.symm.trans h.isNumeric_quote
      rw [Json.map_asciiDigit hascii] at h
      exact ⟨hw.unique h, fun _ => hascii⟩
    · rintro ⟨rfl, hascii⟩
      rwa [Json.map_asciiDigit (hascii hnumeric)] at h
  · rw [if_neg hnumeric] at h
    constructor
    · exact fun hw => ⟨hw.unique h, fun h => absurd h hnumeric⟩
    · rintro ⟨rfl, -⟩
      exact h

/-! The literals of a filter, and of the tree that it comes from. -/

mutual

/-- The literals of the comparisons, from left to right. -/
def literals : Filter → List Value
  | .comparison _ _ v => [v]
  | .presence _ => []
  | .valuePath _ inner => inner.literals
  | .negation inner => inner.literals
  | .chain _ first second more => first.literals ++ (second.literals ++ literalsOf more)

def literalsOf : List Filter → List Value
  | [] => []
  | f :: rest => f.literals ++ literalsOf rest

end

mutual

/-- The tokens of the literals, from left to right. -/
def Disjunction.literals : Disjunction → List (Terminal Token.literal?)
  | .last c => c.literals
  | .more c _ rest => c.literals ++ rest.literals

def Conjunction.literals : Conjunction → List (Terminal Token.literal?)
  | .last t => t.literals
  | .more t _ rest => t.literals ++ rest.literals

def Term.literals : Term → List (Terminal Token.literal?)
  | .negation _ _ inner _ => inner.literals
  | .primary p => p.literals

def Primary.literals : Primary → List (Terminal Token.literal?)
  | .group _ inner _ => inner.literals
  | .valuePath _ _ inner _ => inner.literals
  | .comparison _ _ literal => [literal]
  | .presence .. => []

end

theorem literals_ofMembers (connective : Connective) (members : Filter × List Filter) :
    (ofMembers connective members).literals = literalsOf (members.1 :: members.2) := by
  obtain ⟨first, _ | ⟨second, more⟩⟩ := members
  · rw [literalsOf, literalsOf, List.append_nil]
    rfl
  · rfl

mutual

theorem Disjunction.literals_members : ∀ d : Disjunction,
    literalsOf (d.members.1 :: d.members.2) = d.literals.map (·.value)
  | .last c => by
    have hc := (literals_ofMembers .and c.members).trans (Conjunction.literals_members c)
    rw [Disjunction.literals, ← hc]
    exact List.append_nil _
  | .more c _ rest => by
    have hc := (literals_ofMembers .and c.members).trans (Conjunction.literals_members c)
    rw [Disjunction.literals, List.map_append, ← hc, ← Disjunction.literals_members rest]
    rfl

theorem Conjunction.literals_members : ∀ c : Conjunction,
    literalsOf (c.members.1 :: c.members.2) = c.literals.map (·.value)
  | .last t => by
    rw [Conjunction.literals, ← Term.literals_filter t]
    exact List.append_nil _
  | .more t _ rest => by
    rw [Conjunction.literals, List.map_append, ← Term.literals_filter t, ← Conjunction.literals_members rest]
    rfl

theorem Term.literals_filter : ∀ t : Term, t.filter.literals = t.literals.map (·.value)
  | .negation _ _ inner _ => by
    rw [Term.filter, Term.literals, ← Disjunction.literals_members inner, ← literals_ofMembers .or]
    rfl
  | .primary p => Primary.literals_filter p

theorem Primary.literals_filter : ∀ p : Primary, p.filter.literals = p.literals.map (·.value)
  | .group _ inner _ => by
    rw [Primary.filter, Primary.literals, ← Disjunction.literals_members inner, literals_ofMembers]
  | .valuePath _ _ inner _ => by
    rw [Primary.filter, Primary.literals, ← Disjunction.literals_members inner, ← literals_ofMembers .or]
    rfl
  | .comparison .. => rfl
  | .presence .. => rfl

end

mutual

theorem Disjunction.mem_tokens : ∀ d : Disjunction, ∀ l ∈ d.literals, l.token ∈ d.tokens
  | .last c, l, hl => Conjunction.mem_tokens c l hl
  | .more c join rest, l, hl => by
    rw [Disjunction.tokens, List.mem_append, List.mem_cons]
    rcases List.mem_append.mp hl with hl | hl
    · exact .inl (Conjunction.mem_tokens c l hl)
    · exact .inr (.inr (Disjunction.mem_tokens rest l hl))

theorem Conjunction.mem_tokens : ∀ c : Conjunction, ∀ l ∈ c.literals, l.token ∈ c.tokens
  | .last t, l, hl => Term.mem_tokens t l hl
  | .more t join rest, l, hl => by
    rw [Conjunction.tokens, List.mem_append, List.mem_cons]
    rcases List.mem_append.mp hl with hl | hl
    · exact .inl (Term.mem_tokens t l hl)
    · exact .inr (.inr (Conjunction.mem_tokens rest l hl))

theorem Term.mem_tokens : ∀ t : Term, ∀ l ∈ t.literals, l.token ∈ t.tokens
  | .negation word opening inner closing, l, hl => by
    rw [Term.tokens, List.mem_cons, List.mem_cons, List.mem_append]
    exact .inr (.inr (.inl (Disjunction.mem_tokens inner l hl)))
  | .primary p, l, hl => Primary.mem_tokens p l hl

theorem Primary.mem_tokens : ∀ p : Primary, ∀ l ∈ p.literals, l.token ∈ p.tokens
  | .group opening inner closing, l, hl => by
    rw [Primary.tokens, List.mem_cons, List.mem_append]
    exact .inr (.inl (Disjunction.mem_tokens inner l hl))
  | .valuePath path opening inner closing, l, hl => by
    rw [Primary.tokens, List.mem_cons, List.mem_cons, List.mem_append]
    exact .inr (.inr (.inl (Disjunction.mem_tokens inner l hl)))
  | .comparison path operator literal, l, hl => by
    obtain rfl := List.mem_singleton.mp hl
    exact List.mem_cons_of_mem _ (List.mem_cons_of_mem _ List.mem_cons_self)
  | .presence .., _, hl => absurd hl List.not_mem_nil

end

theorem tree_of_ofString {limit : Value} {s : String} {f : Filter} (h : ofString limit s = .ok f) :
    ∃ d : Disjunction, tokens s.toList = .ok d.tokens ∧ d.filter = f := by
  obtain ⟨allowed, -, h⟩ := Except.bind_eq_ok_iff.mp h
  rw [Except.mapError_eq_ok_iff, parse, Except.mapError_eq_ok_iff, read] at h
  cases htokens : tokens s.toList with
  | error e =>
    rw [htokens] at h
    cases h
  | ok ts =>
    rw [htokens] at h
    obtain ⟨d, rfl, -, rfl⟩ := ofTokens_eq_ok_iff.mp h
    exact ⟨d, rfl, rfl⟩

/-- The literals of a filter that was read.  Each is the value that JSON gives to the text at its place in the
expression.  Only a number may be written in digits that JSON does not have: its text is no literal of JSON then, but
in ASCII digits it is one, with the same value. -/
theorem ofString_literals {limit : Value} {s : String} {f : Filter} (h : ofString limit s = .ok f) :
    ∃ d : Disjunction, tokens s.toList = .ok d.tokens ∧ d.filter = f ∧ f.literals = d.literals.map (·.value) ∧
      ∀ l ∈ d.literals,
        l.token.text = (s.toList.drop l.token.position).take l.token.text.length ∧
        Json.Denotes (l.token.plainText l.value) l.value ∧
        ∀ v, Json.Denotes l.token.text v ↔ v = l.value ∧ (l.value.isNumeric = true → IsAscii l.token.text) := by
  obtain ⟨d, htokens, rfl⟩ := tree_of_ofString h
  have hliterals : d.filter.literals = d.literals.map (·.value) :=
    (literals_ofMembers .or d.members).trans d.literals_members
  refine ⟨d, htokens, rfl, hliterals, fun l hl => ?_⟩
  have hmem := d.mem_tokens l hl
  have hdenotes : Json.Denotes (l.token.plainText l.value) l.value :=
    forall_tokensFrom (P := fun t => ∀ v, t.literal? = some v → Json.Denotes (t.plainText v) v)
      (fun _ _ _ _ hread _ hv => denotes_readToken hread hv) htokens l.token hmem l.value l.reads
  refine ⟨?_, hdenotes, denotes_text_iff hdenotes⟩
  have hcovers := covers_tokensFrom (Nat.zero_le _) htokens
  obtain ⟨-, htext⟩ := hcovers.slice l.token.mark (List.mem_append_left _ (List.mem_map_of_mem hmem))
  exact htext

def agePath : AttrPath :=
  ⟨none, ⟨"age", .refl true⟩, []⟩

theorem ofString_of_tokens {s : String} {ts : List Token} {f : Filter} (htokens : tokens s.toList = .ok ts)
    (h : ofTokens s.toList.length 1 ts = .ok f) : ofString (.integer (1 : Nat)) s = .ok f := by
  rw [ofString_natCast (by decide) (by decide), read, htokens]
  simp only [h]
  rfl

/-- `age eq "\u0031\"" or age gt -10` -/
def quotedFilter : Filter :=
  .chain .or (.comparison agePath .eq (.string "1\"")) (.comparison agePath .gt (.integer (-10))) []

-- An escaped quote in a string, and a number with a sign.
theorem ofString_literals_quoted :
    ofString (.integer (1 : Nat)) "age eq \"\\u0031\\\"\" or age gt -10" = .ok quotedFilter ∧
      ∃ d : Disjunction, d.literals.map (·.value) = [.string "1\"", .integer (-10)] ∧
        ∀ l ∈ d.literals, Json.Denotes (l.token.plainText l.value) l.value := by
  have htokens : tokens "age eq \"\\u0031\\\"\" or age gt -10".toList = .ok
      [ ⟨.word, "age".toList, 0⟩, ⟨.word, "eq".toList, 4⟩,
        ⟨.literal (.string "1\""), "\"\\u0031\\\"\"".toList, 7⟩, ⟨.word, "or".toList, 18⟩,
        ⟨.word, "age".toList, 21⟩, ⟨.word, "gt".toList, 25⟩, ⟨.literal (.integer (-10)), "-10".toList, 28⟩ ] := rfl
  have hread : ofString (.integer (1 : Nat)) "age eq \"\\u0031\\\"\" or age gt -10" = .ok quotedFilter :=
    ofString_of_tokens htokens rfl
  obtain ⟨d, -, -, hliterals, hdenotes⟩ := ofString_literals hread
  exact ⟨hread, d, hliterals.symm, fun l hl => (hdenotes l hl).2.1⟩

-- The second digit is an Arabic one.
theorem ofString_literals_otherDigits :
    ofString (.integer (1 : Nat)) "age eq 1١" = .ok (.comparison agePath .eq (.integer 11)) ∧
      tokens "age eq 1١".toList = .ok
        [⟨.word, "age".toList, 0⟩, ⟨.word, "eq".toList, 4⟩, ⟨.literal (.integer 11), "1١".toList, 7⟩] ∧
      ∀ v, ¬Json.Denotes "1١".toList v := by
  have htokens : tokens "age eq 1١".toList = .ok
      [⟨.word, "age".toList, 0⟩, ⟨.word, "eq".toList, 4⟩, ⟨.literal (.integer 11), "1١".toList, 7⟩] := rfl
  refine ⟨ofString_of_tokens htokens rfl, htokens, fun v h => ?_⟩
  have hchars : Json.Denotes ['1', '١'] v := h
  have hascii : IsAscii ['1', '١'] := hchars.isAscii (by decide)
  exact absurd (hascii '١' (by decide) (by decide)) (by decide)

end Scim.Filter
