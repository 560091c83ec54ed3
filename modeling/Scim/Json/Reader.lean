import Scim.Json.Text
import Scim.Text.Number
import Scim.Value

/-!
Reading JSON texts.  Besides the values of the standard, the names `NaN`, `Infinity` and `-Infinity` are
read as numbers.  Of two fields with one key the later value stands in the place of the earlier.
-/

namespace Scim.Json

def isBlank (c : Char) : Bool :=
  c = ' ' || c = '\t' || c = '\n' || c = '\r'

def skipBlank (cs : List Char) : List Char :=
  cs.dropWhile isBlank

def isDigit (c : Char) : Bool :=
  '0' ≤ c && c ≤ '9'

/-- The text behind `word`, if the text starts with it. -/
def afterWord? (word cs : List Char) : Option (List Char) :=
  if word.isPrefixOf cs then some (cs.drop word.length) else none

/-- The values that are spelled as words. -/
def words : List (List Char × Value) :=
  [ ("null".toList, .null),
    ("true".toList, .bool true),
    ("false".toList, .bool false),
    ("NaN".toList, .decimal .nan),
    ("Infinity".toList, .decimal (.infinity false)),
    ("-Infinity".toList, .decimal (.infinity true)) ]

/-- Reads a word or a number. -/
def readScalar (size : Nat) (cs : List Char) : Except ReadError (Value × List Char) :=
  match words.findSome? fun (word, v) => (afterWord? word cs).map (v, ·) with
  | some read => .ok read
  | none =>
    match Text.scanNumber? isDigit cs with
    | none => .error (.malformed ⟨.expectedValue, size - cs.length⟩)
    | some (number, rest) =>
      if number.isWhole then
        match number.toInt? with
        | some i => .ok (.integer i, rest)
        | none => .error (.tooManyDigits number.whole.length)
      else .ok (.decimal number.toBinary64, rest)

/-- Reads the key of a field with the colon behind it. -/
def readKey (size : Nat) : List Char → Except ReadError (String × List Char)
  | '"' :: cs => do
    let (key, rest) ← (readString true (size - cs.length) cs).mapError .malformed
    match skipBlank rest with
    | ':' :: rest => .ok (String.ofList key, skipBlank rest)
    | rest => .error (.malformed ⟨.expectedColon, size - rest.length⟩)
  | cs => .error (.malformed ⟨.expectedName, size - cs.length⟩)

mutual

/-- Reads the value at the start of `cs`, the rest of a text of `size` characters.  `fuel` is at least
twice the length of `cs`. -/
def readValue (size : Nat) : Nat → List Char → Except ReadError (Value × List Char)
  | 0, cs => .error (.malformed ⟨.expectedValue, size - cs.length⟩)
  | fuel + 1, cs =>
    match cs with
    | '"' :: rest => do
      let (text, rest) ← (readString true (size - rest.length) rest).mapError .malformed
      .ok (.string (String.ofList text), rest)
    | '[' :: rest =>
      match skipBlank rest with
      | ']' :: rest => .ok (.list [], rest)
      | rest => do
        let (items, rest) ← readItems size fuel rest
        .ok (.list items, rest)
    | '\x7b' :: rest =>
      match skipBlank rest with
      | '\x7d' :: rest => .ok (.object [], rest)
      | rest => do
        let (fields, rest) ← readFields size fuel [] rest
        .ok (.object fields, rest)
    | _ => readScalar size cs

/-- Reads the items of a list up to its bracket. -/
def readItems (size : Nat) : Nat → List Char → Except ReadError (List Value × List Char)
  | 0, cs => .error (.malformed ⟨.expectedValue, size - cs.length⟩)
  | fuel + 1, cs => do
    let (item, rest) ← readValue size fuel cs
    match skipBlank rest with
    | ']' :: rest => .ok ([item], rest)
    | ',' :: rest => do
      let (items, rest) ← readItems size fuel (skipBlank rest)
      .ok (item :: items, rest)
    | rest => .error (.malformed ⟨.expectedComma, size - rest.length⟩)

/-- Reads the fields of an object up to its brace, behind those that are already known. -/
def readFields (size : Nat) : Nat → Fields → List Char → Except ReadError (Fields × List Char)
  | 0, _, cs => .error (.malformed ⟨.expectedName, size - cs.length⟩)
  | fuel + 1, known, cs => do
    let (key, rest) ← readKey size cs
    let (v, rest) ← readValue size fuel rest
    let known := Fields.insert key v known
    match skipBlank rest with
    | '\x7d' :: rest => .ok (known, rest)
    | ',' :: rest => readFields size fuel known (skipBlank rest)
    | rest => .error (.malformed ⟨.expectedComma, size - rest.length⟩)

end

/-- Reads a text that holds one value and blanks around it. -/
def read (cs : List Char) : Except ReadError Value :=
  if cs.head? = some '\uFEFF' then .error (.malformed ⟨.byteOrderMark, 0⟩)
  else do
    let (v, rest) ← readValue cs.length (2 * cs.length + 1) (skipBlank cs)
    match skipBlank rest with
    | [] => .ok v
    | rest => .error (.malformed ⟨.extraData, cs.length - rest.length⟩)

end Scim.Json
