import Scim.Filter.Depth
import Scim.Filter.Token

/-!
What can be wrong with a filter expression, and where.
-/

namespace Scim.Filter

/-- The token met where another was due; `none` at the end of the expression. -/
abbrev Found := Option (List Char)

/-- What closes a nested filter. -/
inductive Closer
  | paren
  | bracket
  deriving DecidableEq, Repr

def Closer.spell : Closer → String
  | .paren => ")"
  | .bracket => "]"

inductive Problem
  | lexical (fault : LexicalFault)
  | emptyExpression
  | emptyGroup
  | emptyValuePath
  | unbalanced (closer : Closer)
  | unexpected (found : Found)
  | expectedCloser (closer : Closer) (found : Found)
  /-- The nesting exceeds the limit. -/
  | tooDeep
  | expectedGroup (found : Found)
  | unexpectedEnd
  | expectedPath (found : Found)
  | invalidPath (text : List Char)
  | unknownOperator (text : List Char)
  | expectedOperator (found : Found)
  | missingLiteral
  | invalidLiteral (found : Found)

/-- A problem with the number of characters in front of the token it concerns. -/
structure SyntaxError where
  problem : Problem
  position : Nat

def quotedChars (cs : List Char) : String :=
  Text.quoted (String.ofList cs)

def Found.describe : Found → String
  | none => "end of expression"
  | some text => quotedChars text

def LexicalFault.message : LexicalFault → String
  | .unexpectedCharacter c => "unexpected character " ++ quotedChars [c]
  | .numberOutOfRange text => "number " ++ quotedChars text ++ " is out of range"
  | .unterminatedString => "unterminated string literal"
  | .badString fault => "invalid string literal: " ++ fault.message

/-- The problem in words, for an expression that was read under a limit of nesting. -/
def Problem.message (limit : DepthLimit) : Problem → String
  | .lexical fault => fault.message
  | .emptyExpression => "empty filter expression"
  | .emptyGroup => "empty group"
  | .emptyValuePath => "empty value path filter"
  | .unbalanced closer => "unbalanced '" ++ closer.spell ++ "'"
  | .unexpected found => "unexpected " ++ found.describe
  | .expectedCloser closer found => "expected '" ++ closer.spell ++ "', got " ++ found.describe
  | .tooDeep => "filter nesting exceeds maximum depth of " ++ limit.given.display
  | .expectedGroup found => "expected '(' after 'not', got " ++ found.describe
  | .unexpectedEnd => "unexpected end of expression"
  | .expectedPath found => "expected attribute path or '(', got " ++ found.describe
  | .invalidPath text => "invalid attribute path " ++ quotedChars text
  | .unknownOperator text => "unknown operator " ++ quotedChars text
  | .expectedOperator found => "expected operator, got " ++ found.describe
  | .missingLiteral => "missing comparison value"
  | .invalidLiteral found => "invalid comparison value " ++ found.describe

end Scim.Filter
