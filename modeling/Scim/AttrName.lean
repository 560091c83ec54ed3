import Scim.Text.Lowercase
import Scim.Text.Quoted
import Scim.Text.Word

/-!
Attribute names.  Two names that differ in case only name the same attribute.
-/

namespace Scim

/-- A character that an attribute name may contain behind its first. -/
def isNameChar (c : Char) : Bool :=
  Text.isWord c || c = '$' || c = '-'

/-- A name is `$ref`, or starts with an ASCII letter. -/
def isAttrName (cs : List Char) : Bool :=
  cs = ['$', 'r', 'e', 'f'] ||
    match cs with
    | [] => false
    | c :: rest => c.isAlpha && rest.all isNameChar

structure AttrName where
  text : String
  valid : isAttrName text.toList = true := by decide
  deriving DecidableEq

namespace AttrName

def ofString? (text : String) : Option AttrName :=
  if h : isAttrName text.toList = true then some ⟨text, h⟩ else none

/-- The form that names of the same attribute share. -/
def folded (name : AttrName) : String :=
  Text.lower name.text

def same (a b : AttrName) : Bool :=
  a.folded = b.folded

/-- Whether a text is the name up to case. -/
def isSpelled (name : AttrName) (text : String) : Bool :=
  name.folded = Text.lower text

def describe (name : AttrName) : String :=
  "AttrName(" ++ name.text ++ ")"

end AttrName

end Scim
