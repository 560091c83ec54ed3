import Scim.Document.Report
import Scim.Value

/-!
Reading single fields of documents.  Fields are looked up by their exact names.
-/

namespace Scim.Document

/-- What reading a part of a document gives. -/
abbrev Reading (α : Type) := Except Report α

/-- The entry of a field that could not be read. -/
def entry {α : Type} (place : Place) : Reading α → List (Place × Report)
  | .ok _ => []
  | .error report => [(place, report)]

/-- Reads a field; `absent` is the outcome without it.  No field may be null. -/
def readField {α : Type} (fields : Fields) (name : String) (absent : Reading α) (read : Value → Reading α) :
    Reading α :=
  match fields.lookup name with
  | none => absent
  | some .null => .error .null
  | some v => read v

/-- Reads a text and then what it spells. -/
def readText {α : Type} (parse : String → Except String α) : Value → Reading α
  | .string s => (parse s).mapError .message
  | _ => .error (.message "Not a valid string.")

/-- The texts that stand for truth values. -/
def truthTexts : List String :=
  ["t", "T", "true", "True", "TRUE", "on", "On", "ON", "y", "Y", "yes", "Yes", "YES", "1"]

def falsehoodTexts : List String :=
  ["f", "F", "false", "False", "FALSE", "off", "Off", "OFF", "n", "N", "no", "No", "NO", "0"]

/-- Reads a truth value; the numbers one and zero count too. -/
def readBool (v : Value) : Reading Bool :=
  let truth : Option Bool :=
    match v with
    | .string s =>
      if truthTexts.contains s then some true
      else if falsehoodTexts.contains s then some false
      else none
    | _ =>
      if v.same (.integer 1) then some true else if v.same (.integer 0) then some false else none
  match truth with
  | some b => .ok b
  | none => .error (.message "Not a valid boolean.")

/-- Reads the member of a set of names. -/
def readMember {α : Type} (all : List α) (name : α → String) : Value → Reading α :=
  readText fun s =>
    match all.find? fun a => name a = s with
    | some a => .ok a
    | none => .error ("Must be one of: " ++ ", ".intercalate (all.map name) ++ ".")

def readNonempty : Value → Reading String :=
  readText fun s => if s = "" then .error "Shorter than minimum length 1." else .ok s

/-- Adds an item to those behind it.  Either all are read, or the faults of all are reported. -/
def consItem {α : Type} (position : Nat) (first : Reading α) (more : Except (List (Place × Report)) (List α)) :
    Except (List (Place × Report)) (List α) :=
  match first, more with
  | .ok a, .ok as => .ok (a :: as)
  | .error report, .ok _ => .error [(.item position, report)]
  | .ok _, .error entries => .error entries
  | .error report, .error entries => .error ((.item position, report) :: entries)

/-- Reads items, the first of which has the position given. -/
def readItems {α : Type} (read : Value → Reading α) :
    Nat → List Value → Except (List (Place × Report)) (List α)
  | _, [] => .ok []
  | position, v :: rest => consItem position (read v) (readItems read (position + 1) rest)

/-- Items in a document may not be null. -/
def readItem {α : Type} (read : Value → Reading α) : Value → Reading α
  | .null => .error .null
  | v => read v

/-- Reads a list in a document. -/
def readList {α : Type} (read : Value → Reading α) : Value → Reading (List α)
  | .list items => (readItems (readItem read) 0 items).mapError .parts
  | _ => .error (.message "Not a valid list.")

end Scim.Document
