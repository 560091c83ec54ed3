import Scim.Text.Lowercase
import Scim.Text.Pieces
import Scim.Text.Word

/-!
URIs of schemas.  Two URIs that differ in case only name the same schema.
-/

namespace Scim

/-- A character that a URI may contain between its colons. -/
def isUriChar (c : Char) : Bool :=
  Text.isWord c || c = '.' || c = '-'

/-- A URI consists of non-empty pieces with colons between them. -/
def isSchemaUri (cs : List Char) : Bool :=
  (Text.pieces ':' cs).all fun piece => !piece.isEmpty && piece.all isUriChar

structure SchemaUri where
  text : String
  valid : isSchemaUri text.toList = true := by decide
  deriving DecidableEq

namespace SchemaUri

def ofString? (text : String) : Option SchemaUri :=
  if h : isSchemaUri text.toList = true then some ⟨text, h⟩ else none

/-- The form that URIs of the same schema share. -/
def folded (uri : SchemaUri) : String :=
  Text.lower uri.text

def same (a b : SchemaUri) : Bool :=
  a.folded = b.folded

/-- Whether a text is the URI up to case. -/
def isSpelled (uri : SchemaUri) (text : String) : Bool :=
  uri.folded = Text.lower text

end SchemaUri

end Scim
