/-!
Patterns of texts: the regular ones, over classes of characters.  A text is held against a pattern
character by character; what is left of the pattern behind a character is a pattern again.
-/

namespace Scim.Text

inductive Pattern
  | never
  | empty
  | one (holds : Char → Bool)
  | either (p q : Pattern)
  | seq (p q : Pattern)
  | many (p : Pattern)

namespace Pattern

/-- The pattern of one text. -/
def literal : List Char → Pattern
  | [] => empty
  | c :: rest => seq (one (· = c)) (literal rest)

/-- The texts of a pattern, one or more of them. -/
def oneOrMore (p : Pattern) : Pattern :=
  seq p (many p)

def matchesEmpty : Pattern → Bool
  | never => false
  | empty => true
  | one _ => false
  | either p q => p.matchesEmpty || q.matchesEmpty
  | seq p q => p.matchesEmpty && q.matchesEmpty
  | many _ => true

/-- A choice; `never` is left out of it, so that what is left of a pattern stays small. -/
def orElse : Pattern → Pattern → Pattern
  | never, q => q
  | p, never => p
  | p, q => either p q

/-- A sequence, without the parts that say nothing. -/
def andThen : Pattern → Pattern → Pattern
  | never, _ => never
  | empty, q => q
  | p, q => seq p q

/-- What is left of a pattern behind a character. -/
def behind (c : Char) : Pattern → Pattern
  | never => never
  | empty => never
  | one holds => if holds c then empty else never
  | either p q => (p.behind c).orElse (q.behind c)
  | seq p q =>
    if p.matchesEmpty then ((p.behind c).andThen q).orElse (q.behind c) else (p.behind c).andThen q
  | many p => (p.behind c).andThen (many p)

/-- Whether the whole text is one of the pattern. -/
def accepts (p : Pattern) : List Char → Bool
  | [] => p.matchesEmpty
  | c :: rest => (p.behind c).accepts rest

end Pattern

end Scim.Text
