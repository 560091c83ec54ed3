import Scim.Proofs.Filter.Grammar

/-!
Unambiguity of the grammar: a tree is told by its tokens, also where other tokens follow.
-/

namespace Scim.Filter

/-- Tokens that do not go on with a chain under the connective. -/
def EndsChain (connective : Connective) (rest : List Token) : Prop :=
  ∀ t ∈ rest.head?, t.isKeyword connective.name = false

theorem endsChain_nil (connective : Connective) : EndsChain connective [] := by
  intro t ht
  exact absurd ht (by simp)

theorem endsChain_cons {connective : Connective} {t : Token} (h : t.isKeyword connective.name = false)
    (rest : List Token) : EndsChain connective (t :: rest) := by
  intro u hu
  obtain rfl : t = u := Option.some.inj hu
  exact h

theorem endsChain_closing {closer : Closer} {closing : Token} (h : closes closer closing = true)
    (connective : Connective) (rest : List Token) : EndsChain connective (closing :: rest) := by
  intro t ht
  obtain rfl : closing = t := Option.some.inj ht
  apply Bool.eq_false_iff.mpr
  intro hword
  have hlex := Token.lexeme_of_isKeyword hword
  rw [lexeme_of_closes h] at hlex
  cases closer <;> exact nomatch hlex

-- `or` does not go on with a chain of `and`.
theorem endsChain_and_of_or (join : Keyword "or") (rest : List Token) :
    EndsChain .and (join.1 :: rest) := by
  intro t ht
  obtain rfl : join.1 = t := Option.some.inj ht
  apply Bool.eq_false_iff.mpr
  intro hand
  have hkeyword := Token.keyword_eq hand
  rw [Token.keyword_eq join.2] at hkeyword
  exact absurd hkeyword (by decide)

theorem not_endsChain {connective : Connective} {join : Token} {rest : List Token}
    (hjoin : join.isKeyword connective.name = true) : ¬ EndsChain connective (join :: rest) := by
  intro h
  have hends := h join rfl
  rw [hjoin] at hends
  exact absurd hends (by decide)

theorem Terminal.eq_of_token_eq {α : Type} {read : Token → Option α} {a b : Terminal read}
    (h : a.token = b.token) : a = b := by
  obtain ⟨t, v, hv⟩ := a
  obtain ⟨u, w, hw⟩ := b
  obtain rfl : t = u := h
  obtain rfl : v = w := Option.some.inj (hv.symm.trans hw)
  rfl

/-- The productions of `neg` and `primary` that start with a token. -/
inductive TermKind
  | negation
  | group
  | valuePath
  | comparison
  | presence

def Primary.kind : Primary → TermKind
  | .group .. => .group
  | .valuePath .. => .valuePath
  | .comparison .. => .comparison
  | .presence .. => .presence

/-- The production that two tokens decide. -/
def kindOf : List Token → TermKind
  | t :: u :: _ =>
    if opens .paren t then .group
    else if opens .paren u then .negation
    else if opens .bracket u then .valuePath
    else if u.isKeyword "pr" then .presence
    else .comparison
  | _ => .group

theorem opens_word {t : Token} (h : t.lexeme = .word) (closer : Closer) : opens closer t = false := by
  unfold opens
  rw [h]
  cases closer <;> rfl

theorem opens_paren_of_bracket {t : Token} (h : opens .bracket t = true) : opens .paren t = false := by
  unfold opens
  rw [lexeme_of_opens h]

theorem kindOf_negation (word : Keyword "not") (opening : TokenOf (opens .paren)) (rest : List Token) :
    kindOf (word.1 :: opening.1 :: rest) = .negation := by
  rw [kindOf, opens_word (Token.lexeme_of_isKeyword word.2), opening.2]
  rfl

-- Each production shows in the first two tokens.
theorem Primary.kindOf_tokens (p : Primary) (rest : List Token) :
    kindOf (p.tokens ++ rest) = p.kind := by
  cases p with
  | group opening inner closing =>
    simp only [Primary.tokens, List.cons_append]
    cases inner.tokens ++ [closing.1] ++ rest with
    | nil => rfl
    | cons u more => rw [kindOf, opening.2]; rfl
  | valuePath path opening inner closing =>
    simp only [Primary.tokens, List.cons_append]
    rw [kindOf, opens_word (Token.lexeme_of_path? path.reads), opens_paren_of_bracket opening.2,
      opening.2]
    rfl
  | comparison path operator literal =>
    have hoperator := Token.lexeme_of_operator? operator.reads
    simp only [Primary.tokens, List.cons_append]
    rw [kindOf, opens_word (Token.lexeme_of_path? path.reads), opens_word hoperator,
      opens_word hoperator, Token.not_presence_of_operator? operator.reads]
    rfl
  | presence path word =>
    have hword := Token.lexeme_of_isKeyword word.2
    have hpresence : word.1.isKeyword "pr" = true := word.2
    simp only [Primary.tokens, List.cons_append]
    rw [kindOf, opens_word (Token.lexeme_of_path? path.reads), opens_word hword, opens_word hword,
      hpresence]
    rfl

theorem Primary.kind_eq {p p' : Primary} {rest rest' : List Token}
    (h : p.tokens ++ rest = p'.tokens ++ rest') : p.kind = p'.kind := by
  rw [← Primary.kindOf_tokens p rest, h, Primary.kindOf_tokens]

theorem Primary.tokens_ne_negation (p : Primary) (word : Keyword "not")
    (opening : TokenOf (opens .paren)) (rest more : List Token) :
    p.tokens ++ rest ≠ word.1 :: opening.1 :: more := by
  intro h
  have hkind := Primary.kindOf_tokens p rest
  rw [h, kindOf_negation] at hkind
  cases p <;> exact nomatch hkind

-- Between brackets a tree is told by its tokens if it is in front of any tokens that end its chains.
theorem eq_of_closed {closer : Closer} {inner inner' : Disjunction}
    {closing closing' : TokenOf (closes closer)} {rest rest' : List Token}
    (hinner : ∀ {rest rest' : List Token}, EndsChain .or rest → EndsChain .and rest →
      EndsChain .or rest' → EndsChain .and rest' →
      inner.tokens ++ rest = inner'.tokens ++ rest' → inner = inner' ∧ rest = rest')
    (h : inner.tokens ++ closing.1 :: rest = inner'.tokens ++ closing'.1 :: rest') :
    inner = inner' ∧ closing = closing' ∧ rest = rest' := by
  have hends := endsChain_closing closing.2
  have hends' := endsChain_closing closing'.2
  obtain ⟨heq, hclosed⟩ :=
    hinner (hends .or rest) (hends .and rest) (hends' .or rest') (hends' .and rest') h
  obtain ⟨hclosing, hrest⟩ := List.cons.inj hclosed
  exact ⟨heq, Subtype.ext hclosing, hrest⟩

-- The induction is on the first tree, with any tokens behind both that end their chains: the trees inside
-- brackets and the members of chains stand in front of more tokens, not at the end of the text.

mutual

theorem Disjunction.eq_of_tokens : ∀ (d d' : Disjunction) {rest rest' : List Token},
    EndsChain .or rest → EndsChain .and rest → EndsChain .or rest' → EndsChain .and rest' →
    d.tokens ++ rest = d'.tokens ++ rest' → d = d' ∧ rest = rest'
  | .last c, .last c', rest, rest', _, hand, _, hand', h => by
    obtain ⟨rfl, hrest⟩ := Conjunction.eq_of_tokens c c' hand hand' h
    exact ⟨rfl, hrest⟩
  | .last c, .more c' join more, rest, rest', hor, hand, _, _, h => by
    simp only [Disjunction.tokens, List.append_assoc, List.cons_append] at h
    -- one chain ends where the other goes on
    obtain ⟨-, hrest⟩ := Conjunction.eq_of_tokens c c' hand (endsChain_and_of_or join _) h
    exact absurd (hrest ▸ hor) (not_endsChain join.2)
  | .more c join more, .last c', rest, rest', _, _, hor', hand', h => by
    simp only [Disjunction.tokens, List.append_assoc, List.cons_append] at h
    obtain ⟨-, hrest⟩ := Conjunction.eq_of_tokens c c' (endsChain_and_of_or join _) hand' h
    exact absurd (hrest.symm ▸ hor') (not_endsChain join.2)
  | .more c join more, .more c' join' more', rest, rest', hor, hand, hor', hand', h => by
    simp only [Disjunction.tokens, List.append_assoc, List.cons_append] at h
    obtain ⟨rfl, hjoined⟩ := Conjunction.eq_of_tokens c c' (endsChain_and_of_or join _)
      (endsChain_and_of_or join' _) h
    obtain ⟨hjoin, hmore⟩ := List.cons.inj hjoined
    obtain ⟨rfl, hrest⟩ := Disjunction.eq_of_tokens more more' hor hand hor' hand' hmore
    exact ⟨by rw [Subtype.ext hjoin], hrest⟩

theorem Conjunction.eq_of_tokens : ∀ (c c' : Conjunction) {rest rest' : List Token},
    EndsChain .and rest → EndsChain .and rest' →
    c.tokens ++ rest = c'.tokens ++ rest' → c = c' ∧ rest = rest'
  | .last t, .last t', rest, rest', _, _, h => by
    obtain ⟨rfl, hrest⟩ := Term.eq_of_tokens t t' h
    exact ⟨rfl, hrest⟩
  | .last t, .more t' join more, rest, rest', hand, _, h => by
    simp only [Conjunction.tokens, List.append_assoc, List.cons_append] at h
    obtain ⟨-, hrest⟩ := Term.eq_of_tokens t t' h
    exact absurd (hrest ▸ hand) (not_endsChain join.2)
  | .more t join more, .last t', rest, rest', _, hand', h => by
    simp only [Conjunction.tokens, List.append_assoc, List.cons_append] at h
    obtain ⟨-, hrest⟩ := Term.eq_of_tokens t t' h
    exact absurd (hrest.symm ▸ hand') (not_endsChain join.2)
  | .more t join more, .more t' join' more', rest, rest', hand, hand', h => by
    simp only [Conjunction.tokens, List.append_assoc, List.cons_append] at h
    obtain ⟨rfl, hjoined⟩ := Term.eq_of_tokens t t' h
    obtain ⟨hjoin, hmore⟩ := List.cons.inj hjoined
    obtain ⟨rfl, hrest⟩ := Conjunction.eq_of_tokens more more' hand hand' hmore
    exact ⟨by rw [Subtype.ext hjoin], hrest⟩

theorem Term.eq_of_tokens : ∀ (t t' : Term) {rest rest' : List Token},
    t.tokens ++ rest = t'.tokens ++ rest' → t = t' ∧ rest = rest'
  | .negation word opening inner closing, .negation word' opening' inner' closing', rest, rest', h => by
    simp only [Term.tokens, List.append_assoc, List.cons_append, List.nil_append, List.cons.injEq] at h
    obtain ⟨hword, hopening, hinner⟩ := h
    obtain ⟨rfl, rfl, hrest⟩ := eq_of_closed (Disjunction.eq_of_tokens inner inner') hinner
    exact ⟨by rw [Subtype.ext hword, Subtype.ext hopening], hrest⟩
  -- `not` in front of a bracket is never the name of an attribute
  | .negation word opening inner closing, .primary p, rest, rest', h =>
    absurd h.symm (Primary.tokens_ne_negation p word opening _ _)
  | .primary p, .negation word opening inner closing, rest, rest', h =>
    absurd h (Primary.tokens_ne_negation p word opening _ _)
  | .primary p, .primary p', rest, rest', h => by
    obtain ⟨rfl, hrest⟩ := Primary.eq_of_tokens p p' h
    exact ⟨rfl, hrest⟩

theorem Primary.eq_of_tokens : ∀ (p p' : Primary) {rest rest' : List Token},
    p.tokens ++ rest = p'.tokens ++ rest' → p = p' ∧ rest = rest'
  | .group opening inner closing, p', rest, rest', h => by
    cases p' with
    | group opening' inner' closing' =>
      simp only [Primary.tokens, List.append_assoc, List.cons_append, List.nil_append,
        List.cons.injEq] at h
      obtain ⟨hopening, hinner⟩ := h
      obtain ⟨rfl, rfl, hrest⟩ := eq_of_closed (Disjunction.eq_of_tokens inner inner') hinner
      exact ⟨by rw [Subtype.ext hopening], hrest⟩
    | _ => exact nomatch Primary.kind_eq h
  | .valuePath path opening inner closing, p', rest, rest', h => by
    cases p' with
    | valuePath path' opening' inner' closing' =>
      simp only [Primary.tokens, List.append_assoc, List.cons_append, List.nil_append,
        List.cons.injEq] at h
      obtain ⟨hpath, hopening, hinner⟩ := h
      obtain ⟨rfl, rfl, hrest⟩ := eq_of_closed (Disjunction.eq_of_tokens inner inner') hinner
      exact ⟨by rw [Terminal.eq_of_token_eq hpath, Subtype.ext hopening], hrest⟩
    | _ => exact nomatch Primary.kind_eq h
  | .comparison path operator literal, p', rest, rest', h => by
    cases p' with
    | comparison path' operator' literal' =>
      simp only [Primary.tokens, List.cons_append, List.nil_append, List.cons.injEq] at h
      obtain ⟨hpath, hoperator, hliteral, hrest⟩ := h
      exact ⟨by rw [Terminal.eq_of_token_eq hpath, Terminal.eq_of_token_eq hoperator,
        Terminal.eq_of_token_eq hliteral], hrest⟩
    | _ => exact nomatch Primary.kind_eq h
  | .presence path word, p', rest, rest', h => by
    cases p' with
    | presence path' word' =>
      simp only [Primary.tokens, List.cons_append, List.nil_append, List.cons.injEq] at h
      obtain ⟨hpath, hword, hrest⟩ := h
      exact ⟨by rw [Terminal.eq_of_token_eq hpath, Subtype.ext hword], hrest⟩
    | _ => exact nomatch Primary.kind_eq h

end

/-- A whole sequence of tokens has at most one tree. -/
theorem Disjunction.tokens_injective {d d' : Disjunction} (h : d.tokens = d'.tokens) : d = d' := by
  have happend : d.tokens ++ [] = d'.tokens ++ [] := by rw [h]
  exact (Disjunction.eq_of_tokens d d' (endsChain_nil _) (endsChain_nil _) (endsChain_nil _)
    (endsChain_nil _) happend).1

end Scim.Filter
