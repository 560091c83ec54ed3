import Scim.Json.Text
import Scim.Text.Blank
import Scim.Text.Number
import Scim.Text.Quoted
import Scim.Text.Word
import Scim.Value

/-!
The tokens of filter expressions.
-/

namespace Scim.Filter

inductive Lexeme
  | openParen
  | closeParen
  | openBracket
  | closeBracket
  /-- A string or a number, with its value. -/
  | literal (v : Value)
  | word

/-- A token with its text and the number of characters in front of it. -/
structure Token where
  lexeme : Lexeme
  text : List Char
  position : Nat

/-- What keeps a text from being cut into tokens. -/
inductive LexicalFault
  | unexpectedCharacter (c : Char)
  | numberOutOfRange (text : List Char)
  | unterminatedString
  | badString (fault : Json.Fault)

/-- A fault with the number of characters in front of it. -/
structure LexicalError where
  fault : LexicalFault
  position : Nat

/-- A word starts with a letter or `$`. -/
def isWordStart (c : Char) : Bool :=
  c.isAlpha || c = '$'

/-- A character that a word may contain behind its first. -/
def isWordChar (c : Char) : Bool :=
  Text.isWord c || c = '$' || c = ':' || c = '.' || c = '-'

/-- The length of a string literal behind its opening quote, with the closing one; `none` if it is not
closed.  A backslash takes the next character with it. -/
def stringLength? : List Char → Option Nat
  | [] => none
  | '"' :: _ => some 1
  | '\\' :: _ :: rest => (stringLength? rest).map (· + 2)
  | _ :: rest => (stringLength? rest).map (· + 1)

/-- The string literal at the start of `cs`, which begins with a quote. -/
def readStringToken (position : Nat) (cs : List Char) : Except LexicalError Token :=
  match stringLength? (cs.drop 1) with
  | none => .error ⟨.unterminatedString, position⟩
  | some length =>
    let text := cs.take (length + 1)
    match Json.readString false 1 (text.drop 1) with
    | .ok (content, _) => .ok ⟨.literal (.string (String.ofList content)), text, position⟩
    | .error e => .error ⟨.badString e.fault, position + e.position⟩

/-- The value of a number, if it is in range. -/
def numberValue? (number : Text.NumberText) : Option Value :=
  if number.isWhole then number.toInt?.map .integer
  else
    let d := number.toBinary64
    if d.isFinite then some (.decimal d) else none

/-- The number at the start of `cs`. -/
def readNumberToken (position : Nat) (c : Char) (cs : List Char) : Except LexicalError Token :=
  match Text.scanNumber? Text.isDecimalDigit cs with
  | none => .error ⟨.unexpectedCharacter c, position⟩
  | some (number, rest) =>
    let text := cs.take (cs.length - rest.length)
    match numberValue? number with
    | some v => .ok ⟨.literal v, text, position⟩
    | none => .error ⟨.numberOutOfRange text, position⟩

/-- The token at the start of `c :: rest`, where `c` is not blank. -/
def readToken (position : Nat) (c : Char) (rest : List Char) : Except LexicalError Token :=
  if c = '(' then .ok ⟨.openParen, [c], position⟩
  else if c = ')' then .ok ⟨.closeParen, [c], position⟩
  else if c = '[' then .ok ⟨.openBracket, [c], position⟩
  else if c = ']' then .ok ⟨.closeBracket, [c], position⟩
  else if c = '"' then readStringToken position (c :: rest)
  else if c = '-' || c.isDigit then readNumberToken position c (c :: rest)
  else if isWordStart c then .ok ⟨.word, c :: rest.takeWhile isWordChar, position⟩
  else .error ⟨.unexpectedCharacter c, position⟩

/-- The tokens of a text.  Its first `skip` characters belong to the token before; `position` is the
number of characters in front of it. -/
def tokensFrom (position : Nat) : Nat → List Char → Except LexicalError (List Token)
  | _, [] => .ok []
  | skip + 1, _ :: rest => tokensFrom (position + 1) skip rest
  | 0, c :: rest =>
    if Text.isBlank c then tokensFrom (position + 1) 0 rest
    else do
      let token ← readToken position c rest
      let more ← tokensFrom (position + 1) (token.text.length - 1) rest
      return token :: more

/-- Cuts an expression into tokens. -/
def tokens (cs : List Char) : Except LexicalError (List Token) :=
  tokensFrom 0 0 cs

namespace Token

def isWord (t : Token) : Bool :=
  match t.lexeme with
  | .word => true
  | _ => false

/-- The text of a word in lower case. -/
def keyword (t : Token) : String :=
  String.ofList (Text.lowerChars t.text)

/-- Whether the token is a word that spells the keyword in any case. -/
def isKeyword (t : Token) (keyword : String) : Bool :=
  t.isWord && t.keyword = keyword

end Token

end Scim.Filter
