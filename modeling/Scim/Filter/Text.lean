import Scim.Filter
import Scim.Json.Writer

/-!
Writing filters as expressions.  A chain inside a chain stands in parentheses.
-/

namespace Scim.Filter

def isChain : Filter → Bool
  | .chain .. => true
  | _ => false

/-- The members of a chain with its connective between them. -/
def chained (connective : Connective) (members : List (List Char)) : List Char :=
  List.intercalate (" ".toList ++ connective.name.toList ++ " ".toList) members

def parenthesized (cs : List Char) : List Char :=
  '(' :: cs ++ [')']

/-- A filter as a member of a chain, from its own expression. -/
def asMember (f : Filter) (text : List Char) : List Char :=
  if f.isChain then parenthesized text else text

mutual

/-- The expression of a filter; `none` if a literal has no JSON text. -/
def spell? : Filter → Option (List Char)
  | .comparison path operator literal =>
    (Json.write? literal).map fun text => path.spell ++ ' ' :: operator.name.toList ++ ' ' :: text
  | .presence path => some (path.spell ++ " pr".toList)
  | .valuePath path inner => (spell? inner).map fun text => path.spell ++ '[' :: text ++ [']']
  | .negation inner => (spell? inner).map fun text => "not ".toList ++ parenthesized text
  | .chain connective first second more => do
    let firstText ← spell? first
    let secondText ← spell? second
    let moreTexts ← spellMembers? more
    some (chained connective (asMember first firstText :: asMember second secondText :: moreTexts))

def spellMembers? : List Filter → Option (List (List Char))
  | [] => some []
  | f :: rest => do
    let text ← spell? f
    let more ← spellMembers? rest
    some (asMember f text :: more)

end

def text? (f : Filter) : Option String :=
  f.spell?.map String.ofList

end Scim.Filter
