import Scim.Binary64.Shortest
import Scim.Json.Text
import Scim.Value

/-!
Writing values as JSON texts, with one blank behind each comma and colon.
-/

namespace Scim.Json

/-- Texts with a comma and a blank between them. -/
def joined (texts : List (List Char)) : List Char :=
  List.intercalate [',', ' '] texts

mutual

/-- The text of a value; `none` if the value holds a date-time or an absent value, which JSON cannot
carry. -/
def write? : Value → Option (List Char)
  | .missing => none
  | .dateTime _ => none
  | .null => some "null".toList
  | .bool true => some "true".toList
  | .bool false => some "false".toList
  | .integer i => some (toString i).toList
  | .decimal d => some (d.text Binary64.jsonFormat).toList
  | .string s => some (spellString s.toList)
  | .list items => (writeItems? items).map fun parts => '[' :: joined parts ++ [']']
  | .object fields => (writeFields? fields).map fun parts => '\x7b' :: joined parts ++ ['\x7d']

def writeItems? : List Value → Option (List (List Char))
  | [] => some []
  | v :: rest => do
    let text ← write? v
    let texts ← writeItems? rest
    some (text :: texts)

def writeFields? : List (String × Value) → Option (List (List Char))
  | [] => some []
  | (key, v) :: rest => do
    let text ← write? v
    let texts ← writeFields? rest
    some ((spellString key.toList ++ [':', ' '] ++ text) :: texts)

end

end Scim.Json
