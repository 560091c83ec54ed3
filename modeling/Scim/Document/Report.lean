import Scim.Text.Quoted

/-!
Reports on malformed documents: messages, filed under the fields and positions that they concern.
-/

namespace Scim.Document

inductive Place
  | field (name : String)
  | item (position : Nat)
  deriving DecidableEq, Repr

inductive Report
  | messages (texts : List String)
  | parts (entries : List (Place × Report))

def Place.text : Place → String
  | .field name => Text.quoted name
  | .item position => toString position

namespace Report

mutual

/-- The report as one line. -/
def text : Report → String
  | .messages texts => "[" ++ ", ".intercalate (texts.map Text.quoted) ++ "]"
  | .parts entries => "\x7b" ++ ", ".intercalate (entryTexts entries) ++ "\x7d"

def entryTexts : List (Place × Report) → List String
  | [] => []
  | (place, report) :: rest => (place.text ++ ": " ++ report.text) :: entryTexts rest

end

def message (text : String) : Report :=
  .messages [text]

/-- The place of reports that concern a document as a whole. -/
def whole : Place := .field "_schema"

/-- A document that is no object, or a list of documents that is no list. -/
def wrongShape : Report :=
  .parts [(whole, message "Invalid input type.")]

def null : Report :=
  message "Field may not be null."

def missing : Report :=
  message "Missing data for required field."

end Report

end Scim.Document
