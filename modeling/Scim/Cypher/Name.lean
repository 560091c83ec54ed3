/-!
Names in Cypher texts: plain identifiers, and all other names between backquotes.
-/

namespace Scim.Cypher

def isIdentifierStart (c : Char) : Bool :=
  c.isAlpha || c = '_'

def isIdentifierChar (c : Char) : Bool :=
  c.isAlphanum || c = '_'

def isIdentifier : List Char → Bool
  | [] => false
  | c :: rest => isIdentifierStart c && rest.all isIdentifierChar

def backquote : Char := '\x60'

/-- A name as it stands in a query; inside backquotes a backquote is written twice. -/
def quoteChars (name : List Char) : List Char :=
  if isIdentifier name then name
  else
    backquote ::
      (name.flatMap fun c => if c = backquote then [backquote, backquote] else [c]) ++ [backquote]

def quote (name : String) : String :=
  String.ofList (quoteChars name.toList)

end Scim.Cypher
