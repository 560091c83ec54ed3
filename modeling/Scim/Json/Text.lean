import Scim.Json.Fault

/-!
String literals of JSON: reading and writing.
-/

namespace Scim.Json

def hexValue? (c : Char) : Option Nat :=
  if '0' ≤ c ∧ c ≤ '9' then some (c.toNat - '0'.toNat)
  else if 'a' ≤ c ∧ c ≤ 'f' then some (c.toNat - 'a'.toNat + 10)
  else if 'A' ≤ c ∧ c ≤ 'F' then some (c.toNat - 'A'.toNat + 10)
  else none

/-- The code unit of an escape: four hexadecimal digits, with at least one more character behind them. -/
def codeUnit? : List Char → Option (Nat × List Char)
  | a :: b :: c :: d :: rest => do
    if rest.isEmpty then none
    else
      let a ← hexValue? a
      let b ← hexValue? b
      let c ← hexValue? c
      let d ← hexValue? d
      some (((a * 16 + b) * 16 + c) * 16 + d, rest)
  | _ => none

def isHighSurrogate (n : Nat) : Bool := 0xD800 ≤ n && n < 0xDC00

def isLowSurrogate (n : Nat) : Bool := 0xDC00 ≤ n && n < 0xE000

/-- The character of a code unit; half a surrogate pair gives the replacement character. -/
def charOfUnit (n : Nat) : Char :=
  if isHighSurrogate n || isLowSurrogate n then '\uFFFD' else Char.ofNat n

/-- The character of a surrogate pair. -/
def charOfPair (high low : Nat) : Char :=
  Char.ofNat (0x10000 + (high - 0xD800) * 0x400 + (low - 0xDC00))

/-- The character that a letter names behind a backslash. -/
def shortEscape? : Char → Option Char
  | '"' => some '"'
  | '\\' => some '\\'
  | '/' => some '/'
  | 'b' => some '\x08'
  | 'f' => some '\x0c'
  | 'n' => some '\n'
  | 'r' => some '\r'
  | 't' => some '\t'
  | _ => none

/-- What the reader of a string literal meets next. -/
inductive Piece
  /-- The closing quote, with the text behind it. -/
  | close (rest : List Char)
  /-- One character of the string, with the length of its spelling and the text behind. -/
  | char (c : Char) (width : Nat) (rest : List Char)
  /-- A fault so many characters further on. -/
  | fault (f : Fault) (ahead : Nat)

/-- Reads a second code unit behind a high surrogate, if one is spelled there. -/
def afterHighSurrogate (high : Nat) (rest : List Char) : Piece :=
  match rest with
  | '\\' :: 'u' :: more =>
    if (more.drop 4).isEmpty then .char (charOfUnit high) 6 rest
    else
      match codeUnit? more with
      | none => .fault .badUnicodeEscape 7
      | some (low, behind) =>
        if isLowSurrogate low then .char (charOfPair high low) 12 behind
        else .char (charOfUnit high) 6 rest
  | _ => .char (charOfUnit high) 6 rest

/-- Reads the next piece of a string literal.  `strict` forbids raw control characters. -/
def nextPiece (strict : Bool) : List Char → Piece
  | [] => .fault .unterminatedString 0
  | '"' :: rest => .close rest
  | '\\' :: [] => .fault .unterminatedString 0
  | '\\' :: 'u' :: more =>
    match codeUnit? more with
    | none => .fault .badUnicodeEscape 1
    | some (unit, rest) =>
      if isHighSurrogate unit then afterHighSurrogate unit rest else .char (charOfUnit unit) 6 rest
  | '\\' :: c :: rest =>
    match shortEscape? c with
    | some d => .char d 2 rest
    | none => .fault .badEscape 0
  | c :: rest => if strict && c.toNat < 0x20 then .fault .controlCharacter 0 else .char c 1 rest

/-- Reads a string literal behind its opening quote.  `start` is the position of that quote and
`position` that of the text; `fuel` is at least the length of the text. -/
def readStringBody (strict : Bool) (start : Nat) :
    Nat → Nat → List Char → Except FaultAt (List Char × List Char)
  | 0, _, _ => .error ⟨.unterminatedString, start⟩
  | fuel + 1, position, cs =>
    match nextPiece strict cs with
    | .close rest => .ok ([], rest)
    | .char c width rest => do
      let (tail, behind) ← readStringBody strict start fuel (position + width) rest
      return (c :: tail, behind)
    | .fault .unterminatedString _ => .error ⟨.unterminatedString, start⟩
    | .fault f ahead => .error ⟨f, position + ahead⟩

/-- Reads a string literal at `position`, behind its opening quote at the position before. -/
def readString (strict : Bool) (position : Nat) (cs : List Char) :
    Except FaultAt (List Char × List Char) :=
  readStringBody strict (position - 1) (cs.length + 1) position cs

/-- The spelling of a character in a string literal: only the quote, the backslash and controls are
escaped. -/
def spellChar (c : Char) : List Char :=
  if c = '"' then ['\\', '"']
  else if c = '\\' then ['\\', '\\']
  else if c = '\n' then ['\\', 'n']
  else if c = '\r' then ['\\', 'r']
  else if c = '\t' then ['\\', 't']
  else if c = '\x08' then ['\\', 'b']
  else if c = '\x0c' then ['\\', 'f']
  else if c.toNat < 0x20 then
    let digits := Nat.toDigits 16 c.toNat
    ['\\', 'u'] ++ List.replicate (4 - digits.length) '0' ++ digits
  else [c]

/-- A string literal. -/
def spellString (cs : List Char) : List Char :=
  '"' :: cs.flatMap spellChar ++ ['"']

end Scim.Json
