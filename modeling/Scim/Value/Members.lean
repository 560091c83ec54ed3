import Scim.Json.Writer
import Scim.Text.Pieces
import Scim.Value

/-!
The members of lists, texts and objects, and the values that can be read as objects: objects themselves,
and sequences of pairs of a key and a value.
-/

namespace Scim.Value

/-- The members that a value can be taken apart into: the items of a list, the characters of a text, the
keys of an object. -/
def members? : Value → Option (List Value)
  | .list items => some items
  | .string s => some (s.toList.map fun c => .string (String.singleton c))
  | .object fields => some ((Fields.keys fields).map .string)
  | _ => none

/-- The first member whose lower-case form is that of the name. -/
def memberLike? (name : String) (members : List Value) : Option String :=
  members.findSome? fun v =>
    match v with
    | .string s => if Text.lower s = Text.lower name then some s else none
    | _ => none

/-- What a name finds in a value: itself if it is a key, an item or a part of a text, else the first member
that differs from it in case only.  Values without members cannot be searched. -/
def search? (name : String) (v : Value) : Option (Option String) :=
  v.members?.map fun members =>
    let itself :=
      match v with
      | .string s => Text.occursIn name.toList s.toList
      | _ => members.any fun m => m.same (.string name)
    if itself then some name else memberLike? name members

/-- Why a value cannot be read as an object. -/
inductive ObjectFault
  /-- The value or a pair of it has no members, or a key is a list or an object. -/
  | unreadable
  /-- A pair has not exactly two members. -/
  | notAPair

/-- Adds a value under a key to those before it, or exchanges the one that has an equal key. -/
def insertPair (key v : Value) : List (Value × Value) → List (Value × Value)
  | [] => [(key, v)]
  | pair :: rest => if pair.1.same key then (pair.1, v) :: rest else pair :: insertPair key v rest

/-- Adds pairs in their order. -/
def insertPairs : List Value → List (Value × Value) → Except ObjectFault (List (Value × Value))
  | [], pairs => .ok pairs
  | pair :: rest, pairs =>
    match pair.members? with
    | none => .error .unreadable
    | some [key, v] =>
      if key.isKey then insertPairs rest (insertPair key v pairs) else .error .unreadable
    | some _ => .error .notAPair

/-- The key as text: that of a text is the text itself, others are spelled as in JSON. -/
def keyText? : Value → Option String
  | .string s => some s
  | key => (Json.write? key).map String.ofList

/-- The fields of pairs. -/
def fieldsOfPairs : List (Value × Value) → Except ObjectFault Fields
  | [] => .ok []
  | (key, v) :: rest =>
    match keyText? key with
    | none => .error .unreadable
    | some text => (fieldsOfPairs rest).map ((text, v) :: ·)

/-- The fields of a value that is an object or can be read as one. -/
def toFields : Value → Except ObjectFault Fields
  | .object fields => .ok fields
  | v =>
    match v.members? with
    | none => .error .unreadable
    | some items => do fieldsOfPairs (← insertPairs items [])

theorem toFields_object (fields : Fields) : toFields (.object fields) = .ok fields := rfl

end Scim.Value
