import Scim.Filter.Reader

/-!
The grammar of filter expressions: derivation trees over tokens, with the tokens that a tree derives, the
filter that it determines and the nesting of its brackets.  Every sequence of tokens has at most one tree.
-/

namespace Scim.Filter

namespace Token

/-- The path that a word spells. -/
def path? (t : Token) : Option AttrPath :=
  if t.isWord then AttrPath.read? t.text else none

/-- The comparison operator that a word names, in any case. -/
def operator? (t : Token) : Option Operator :=
  if t.isWord then Operator.ofName? t.keyword else none

/-- The value of a token that is a literal.  The words among the literals are in lower case. -/
def literal? (t : Token) : Option Value :=
  match t.lexeme with
  | .literal v => some v
  | .word =>
    if t.text = "true".toList then some (.bool true)
    else if t.text = "false".toList then some (.bool false)
    else if t.text = "null".toList then some .null
    else none
  | _ => none

/-- The level of nesting behind a token that stands at a level. -/
def levelBehind (t : Token) (level : Nat) : Nat :=
  match t.lexeme with
  | .openParen => level + 1
  | .openBracket => level + 1
  | .closeParen => level - 1
  | .closeBracket => level - 1
  | _ => level

end Token

/-- The deepest level that brackets reach, starting from a level. -/
def deepest : Nat → List Token → Nat
  | level, [] => level
  | level, t :: rest => max level (deepest (t.levelBehind level) rest)

/-- How deep the brackets of an expression are nested. -/
def nesting (ts : List Token) : Nat :=
  deepest 0 ts

/-- The tokens of a class. -/
abbrev TokenOf (isMember : Token → Bool) := { t : Token // isMember t = true }

/-- The tokens that are a keyword in any case. -/
abbrev Keyword (keyword : String) := TokenOf (·.isKeyword keyword)

/-- A token that is read as a value: a path, an operator or a literal. -/
structure Terminal {α : Type} (read : Token → Option α) where
  token : Token
  value : α
  reads : read token = some value

mutual

/-- `filter := and-chain ('or' and-chain)*` -/
inductive Disjunction
  | last (c : Conjunction)
  | more (c : Conjunction) (join : Keyword "or") (rest : Disjunction)

/-- `and-chain := neg ('and' neg)*` -/
inductive Conjunction
  | last (t : Term)
  | more (t : Term) (join : Keyword "and") (rest : Conjunction)

/-- `neg := 'not' '(' filter ')' | primary` -/
inductive Term
  | negation (word : Keyword "not") (opening : TokenOf (opens .paren)) (inner : Disjunction)
      (closing : TokenOf (closes .paren))
  | primary (p : Primary)

/-- `primary := '(' filter ')' | path '[' filter ']' | path operator literal | path 'pr'` -/
inductive Primary
  | group (opening : TokenOf (opens .paren)) (inner : Disjunction) (closing : TokenOf (closes .paren))
  | valuePath (path : Terminal Token.path?) (opening : TokenOf (opens .bracket)) (inner : Disjunction)
      (closing : TokenOf (closes .bracket))
  | comparison (path : Terminal Token.path?) (operator : Terminal Token.operator?)
      (literal : Terminal Token.literal?)
  | presence (path : Terminal Token.path?) (word : Keyword "pr")

end

mutual

/-- The tokens that a tree derives. -/
def Disjunction.tokens : Disjunction → List Token
  | .last c => c.tokens
  | .more c join rest => c.tokens ++ join.1 :: rest.tokens

def Conjunction.tokens : Conjunction → List Token
  | .last t => t.tokens
  | .more t join rest => t.tokens ++ join.1 :: rest.tokens

def Term.tokens : Term → List Token
  | .negation word opening inner closing =>
    word.1 :: opening.1 :: (inner.tokens ++ [closing.1])
  | .primary p => p.tokens

def Primary.tokens : Primary → List Token
  | .group opening inner closing => opening.1 :: (inner.tokens ++ [closing.1])
  | .valuePath path opening inner closing =>
    path.token :: opening.1 :: (inner.tokens ++ [closing.1])
  | .comparison path operator literal => [path.token, operator.token, literal.token]
  | .presence path word => [path.token, word.1]

end

/-- The filter of a chain: its members under one connective, or its only member. -/
def ofMembers (connective : Connective) (members : Filter × List Filter) : Filter :=
  join connective members.1 members.2

mutual

/-- The members of a chain, in their order. -/
def Disjunction.members : Disjunction → Filter × List Filter
  | .last c => (ofMembers .and c.members, [])
  | .more c _ rest => (ofMembers .and c.members, rest.members.1 :: rest.members.2)

def Conjunction.members : Conjunction → Filter × List Filter
  | .last t => (t.filter, [])
  | .more t _ rest => (t.filter, rest.members.1 :: rest.members.2)

/-- The filter that a tree determines; a group stands for what it holds. -/
def Term.filter : Term → Filter
  | .negation _ _ inner _ => .negation (ofMembers .or inner.members)
  | .primary p => p.filter

def Primary.filter : Primary → Filter
  | .group _ inner _ => ofMembers .or inner.members
  | .valuePath path _ inner _ => .valuePath path.value (ofMembers .or inner.members)
  | .comparison path operator literal => .comparison path.value operator.value literal.value
  | .presence path _ => .presence path.value

end

def Disjunction.filter (d : Disjunction) : Filter :=
  ofMembers .or d.members

def Conjunction.filter (c : Conjunction) : Filter :=
  ofMembers .and c.members

mutual

/-- How deep a tree nests brackets. -/
def Disjunction.depth : Disjunction → Nat
  | .last c => c.depth
  | .more c _ rest => max c.depth rest.depth

def Conjunction.depth : Conjunction → Nat
  | .last t => t.depth
  | .more t _ rest => max t.depth rest.depth

def Term.depth : Term → Nat
  | .negation _ _ inner _ => inner.depth + 1
  | .primary p => p.depth

def Primary.depth : Primary → Nat
  | .group _ inner _ => inner.depth + 1
  | .valuePath _ _ inner _ => inner.depth + 1
  | .comparison .. => 0
  | .presence .. => 0

end

/-! Classes of tokens. -/

theorem Token.lexeme_eq_word {t : Token} (h : t.isWord = true) : t.lexeme = .word := by
  unfold Token.isWord at h
  split at h
  · assumption
  · exact absurd h (by decide)

theorem Token.lexeme_of_isKeyword {t : Token} {keyword : String} (h : t.isKeyword keyword = true) :
    t.lexeme = .word := by
  unfold Token.isKeyword at h
  exact Token.lexeme_eq_word ((Bool.and_eq_true_iff.mp h).1)

theorem Token.keyword_eq {t : Token} {keyword : String} (h : t.isKeyword keyword = true) :
    t.keyword = keyword := by
  unfold Token.isKeyword at h
  exact of_decide_eq_true (Bool.and_eq_true_iff.mp h).2

theorem lexeme_of_opens {closer : Closer} {t : Token} (h : opens closer t = true) :
    t.lexeme = match closer with
      | .paren => .openParen
      | .bracket => .openBracket := by
  unfold opens at h
  split at h
  · assumption
  · assumption
  · exact absurd h (by decide)

theorem lexeme_of_closes {closer : Closer} {t : Token} (h : closes closer t = true) :
    t.lexeme = match closer with
      | .paren => .closeParen
      | .bracket => .closeBracket := by
  unfold closes at h
  split at h
  · assumption
  · assumption
  · exact absurd h (by decide)

theorem Token.lexeme_of_path? {t : Token} {path : AttrPath} (h : t.path? = some path) :
    t.lexeme = .word := by
  unfold Token.path? at h
  split at h
  · exact Token.lexeme_eq_word ‹_›
  · exact absurd h (by simp)

theorem Token.lexeme_of_operator? {t : Token} {operator : Operator} (h : t.operator? = some operator) :
    t.lexeme = .word := by
  unfold Token.operator? at h
  split at h
  · exact Token.lexeme_eq_word ‹_›
  · exact absurd h (by simp)

-- `pr` is not the name of an operator.
theorem Token.not_presence_of_operator? {t : Token} {operator : Operator}
    (h : t.operator? = some operator) : t.isKeyword "pr" = false := by
  apply Bool.eq_false_iff.mpr
  intro hpr
  have hname : Operator.ofName? "pr" = none := by decide
  unfold Token.operator? at h
  rw [Token.keyword_eq hpr, hname, ite_self] at h
  exact nomatch h

/-! Brackets of a tree. -/

theorem le_deepest (level : Nat) (ts : List Token) : level ≤ deepest level ts := by
  cases ts with
  | nil => exact Nat.le_refl level
  | cons t rest => exact Nat.le_max_left _ _

-- A token that is no bracket does not count.
theorem deepest_cons_plain {t : Token} {level : Nat} {rest : List Token}
    (h : t.levelBehind level = level) : deepest level (t :: rest) = deepest level rest := by
  rw [deepest, h]
  exact Nat.max_eq_right (le_deepest level rest)

theorem levelBehind_word {t : Token} (level : Nat) (h : t.lexeme = .word) :
    t.levelBehind level = level := by
  rw [Token.levelBehind, h]

theorem levelBehind_literal {t : Token} {v : Value} (level : Nat) (h : t.literal? = some v) :
    t.levelBehind level = level := by
  unfold Token.literal? at h
  unfold Token.levelBehind
  cases hl : t.lexeme with
  | literal v => rfl
  | word => rfl
  | _ => rw [hl] at h; cases h

theorem levelBehind_opening {closer : Closer} {t : Token} {level : Nat}
    (h : opens closer t = true) : t.levelBehind level = level + 1 := by
  rw [Token.levelBehind, lexeme_of_opens h]
  cases closer <;> rfl

theorem levelBehind_closing {closer : Closer} {t : Token} {level : Nat}
    (h : closes closer t = true) : t.levelBehind level = level - 1 := by
  rw [Token.levelBehind, lexeme_of_closes h]
  cases closer <;> rfl

-- Brackets around tokens that reach `depth` levels reach one more.
theorem deepest_bracketed {closer : Closer} {opening closing : Token} {inner : List Token}
    {level depth : Nat} (hopen : opens closer opening = true) (hclose : closes closer closing = true)
    (hinner : ∀ rest, deepest (level + 1) (inner ++ rest) =
      max (level + 1 + depth) (deepest (level + 1) rest)) (rest : List Token) :
    deepest level (opening :: (inner ++ [closing]) ++ rest) =
      max (level + (depth + 1)) (deepest level rest) := by
  have hrest := le_deepest level rest
  rw [List.cons_append, List.append_assoc, deepest, levelBehind_opening hopen, hinner,
    List.singleton_append, deepest, levelBehind_closing hclose, Nat.add_sub_cancel]
  omega

mutual

theorem Disjunction.deepest_tokens (level : Nat) : ∀ (d : Disjunction) (rest : List Token),
    deepest level (d.tokens ++ rest) = max (level + d.depth) (deepest level rest)
  | .last c, rest => Conjunction.deepest_tokens level c rest
  | .more c join more, rest => by
    have hjoin := levelBehind_word level (Token.lexeme_of_isKeyword join.2)
    rw [Disjunction.tokens, Disjunction.depth, List.append_assoc, Conjunction.deepest_tokens level c,
      List.cons_append, deepest_cons_plain hjoin, Disjunction.deepest_tokens level more]
    omega

theorem Conjunction.deepest_tokens (level : Nat) : ∀ (c : Conjunction) (rest : List Token),
    deepest level (c.tokens ++ rest) = max (level + c.depth) (deepest level rest)
  | .last t, rest => Term.deepest_tokens level t rest
  | .more t join more, rest => by
    have hjoin := levelBehind_word level (Token.lexeme_of_isKeyword join.2)
    rw [Conjunction.tokens, Conjunction.depth, List.append_assoc, Term.deepest_tokens level t,
      List.cons_append, deepest_cons_plain hjoin, Conjunction.deepest_tokens level more]
    omega

theorem Term.deepest_tokens (level : Nat) : ∀ (t : Term) (rest : List Token),
    deepest level (t.tokens ++ rest) = max (level + t.depth) (deepest level rest)
  | .negation word opening inner closing, rest => by
    have hword := levelBehind_word level (Token.lexeme_of_isKeyword word.2)
    rw [Term.tokens, Term.depth, List.cons_append, deepest_cons_plain hword]
    exact deepest_bracketed opening.2 closing.2 (Disjunction.deepest_tokens (level + 1) inner) rest
  | .primary p, rest => Primary.deepest_tokens level p rest

theorem Primary.deepest_tokens (level : Nat) : ∀ (p : Primary) (rest : List Token),
    deepest level (p.tokens ++ rest) = max (level + p.depth) (deepest level rest)
  | .group opening inner closing, rest =>
    deepest_bracketed opening.2 closing.2 (Disjunction.deepest_tokens (level + 1) inner) rest
  | .valuePath path opening inner closing, rest => by
    have hpath := levelBehind_word level (Token.lexeme_of_path? path.reads)
    rw [Primary.tokens, Primary.depth, List.cons_append, deepest_cons_plain hpath]
    exact deepest_bracketed opening.2 closing.2 (Disjunction.deepest_tokens (level + 1) inner) rest
  | .comparison path operator literal, rest => by
    have hpath := levelBehind_word level (Token.lexeme_of_path? path.reads)
    have hoperator := levelBehind_word level (Token.lexeme_of_operator? operator.reads)
    have hliteral := levelBehind_literal level literal.reads
    have hrest := le_deepest level rest
    simp only [Primary.tokens, Primary.depth, List.cons_append, List.nil_append]
    rw [deepest_cons_plain hpath, deepest_cons_plain hoperator, deepest_cons_plain hliteral]
    omega
  | .presence path word, rest => by
    have hpath := levelBehind_word level (Token.lexeme_of_path? path.reads)
    have hword := levelBehind_word level (Token.lexeme_of_isKeyword word.2)
    have hrest := le_deepest level rest
    simp only [Primary.tokens, Primary.depth, List.cons_append, List.nil_append]
    rw [deepest_cons_plain hpath, deepest_cons_plain hword]
    omega

end

/-- The nesting of an expression is the depth of its tree. -/
theorem Disjunction.nesting_tokens (d : Disjunction) : nesting d.tokens = d.depth := by
  have h := Disjunction.deepest_tokens 0 d []
  rw [List.append_nil, Nat.zero_add] at h
  exact h.trans (Nat.max_eq_left (Nat.zero_le _))

end Scim.Filter
