/-!
Base64 texts.
-/

namespace Scim.Text

/-- A character of the base64 alphabet. -/
def isBase64Char (c : Char) : Bool :=
  c.isAlphanum || c = '+' || c = '/'

/-- Whether a text is a base64 text: characters of the alphabet, then padding that completes a group of
four.  Padding after complete groups is let pass, but not alone. -/
def isBase64 (cs : List Char) : Bool :=
  let data := (cs.takeWhile isBase64Char).length
  let padding := cs.dropWhile isBase64Char
  padding.all (· = '=') &&
    match data % 4 with
    | 0 => padding.isEmpty || data ≠ 0
    | 2 => padding.length = 2
    | 3 => padding.length = 1
    | _ => false

def isAscii (cs : List Char) : Bool :=
  cs.all fun c => c.val < 128

end Scim.Text
