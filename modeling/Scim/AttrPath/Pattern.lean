import Scim.AttrPath
import Scim.Text.Pattern

/-!
The pattern of attribute paths, by which a text is checked without being read.
-/

namespace Scim

open Text (Pattern)

def AttrName.pattern : Pattern :=
  .either (.seq (.one Char.isAlpha) (.many (.one isNameChar))) (.literal ['$', 'r', 'e', 'f'])

/-- What stands in front of the names: pieces of a URI, each with a colon behind it. -/
def SchemaUri.frontPattern : Pattern :=
  .many (.seq (.oneOrMore (.one isUriChar)) (.one (· = ':')))

namespace AttrPath

def dottedPattern : Pattern :=
  .seq AttrName.pattern (.many (.seq (.one (· = '.')) AttrName.pattern))

def pattern : Pattern :=
  .seq SchemaUri.frontPattern dottedPattern

/-- Whether a text is the spelling of a path. -/
def isValid (text : String) : Bool :=
  pattern.accepts text.toList

end AttrPath

end Scim
