import Scim.Binary64.Shortest
import Scim.DateTime.Text
import Scim.Text.Quoted
import Scim.Value

/-!
Values in messages.
-/

namespace Scim.Value

mutual

/-- The value spelled out: texts in quotes, lists in brackets, objects in braces. -/
def display : Value → String
  | .missing => "Missing"
  | .null => "None"
  | .bool true => "True"
  | .bool false => "False"
  | .integer i => toString i
  | .decimal d => d.text Binary64.messageFormat
  | .string s => Text.quoted s
  | .dateTime t => t.messageText
  | .list items => "[" ++ ", ".intercalate (displayItems items) ++ "]"
  | .object fields => "\x7b" ++ ", ".intercalate (displayFields fields) ++ "\x7d"

def displayItems : List Value → List String
  | [] => []
  | v :: rest => v.display :: displayItems rest

def displayFields : List (String × Value) → List String
  | [] => []
  | (key, v) :: rest => (Text.quoted key ++ ": " ++ v.display) :: displayFields rest

end

/-- The value as a part of a sentence: a text stands without quotes. -/
def words : Value → String
  | .string s => s
  | v => v.display

end Scim.Value
