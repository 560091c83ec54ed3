import Scim.Text.Decomposition
import Scim.Text.Composition
import Scim.Text.CombiningClass

/-!
Normalization Form C: characters are decomposed, marks put into canonical order, and the result
composed again.
-/

namespace Scim.Text

/-- The parts of a Hangul syllable: a leading consonant, a vowel, and a trailing consonant unless the
syllable is open. -/
def hangulParts (n : Nat) : List Nat :=
  let s := n - 0xAC00
  let openSyllable := [0x1100 + s / 588, 0x1161 + s % 588 / 28]
  if s % 28 = 0 then openSyllable else openSyllable ++ [0x11A7 + s % 28]

def isHangulSyllable (n : Nat) : Bool :=
  0xAC00 ≤ n && n ≤ 0xD7A3

/-- The full canonical decomposition of a character. -/
def decompose (c : Char) : List Char :=
  if c.val < 0xC0 then [c]
  else if isHangulSyllable c.toNat then (hangulParts c.toNat).map Char.ofNat
  else
    match decompositions.lookup c.toNat with
    | some parts => parts.map Char.ofNat
    | none =>
      match singletons.lookup c.toNat with
      | some n => [Char.ofNat n]
      | none => [c]

/-- Inserts `c` in front of marks that are in canonical order; it moves behind the marks of lower class. -/
def insertMark (c : Char) : List Char → List Char
  | [] => [c]
  | d :: rest =>
    if combiningClass d ≠ 0 ∧ combiningClass d < combiningClass c then d :: insertMark c rest
    else c :: d :: rest

/-- Sorts each run of marks by combining class and keeps the order of marks of one class. -/
def orderMarks (cs : List Char) : List Char :=
  cs.foldr insertMark []

/-- The Hangul syllable that two adjacent characters form. -/
def composeHangul (a b : Nat) : Option Nat :=
  if 0x1100 ≤ a ∧ a < 0x1113 ∧ 0x1161 ≤ b ∧ b < 0x1176 then
    some (0xAC00 + ((a - 0x1100) * 21 + (b - 0x1161)) * 28)
  else if isHangulSyllable a ∧ (a - 0xAC00) % 28 = 0 ∧ 0x11A7 < b ∧ b < 0x11C3 then
    some (a + (b - 0x11A7))
  else none

def composePair (a b : Char) : Option Char :=
  if b.val < 0x300 then none
  else
    match composeHangul a.toNat b.toNat with
    | some n => some (Char.ofNat n)
    | none =>
      (compositions.find? fun (x, y, _) => x = a.toNat && y = b.toNat).map fun (_, _, n) => Char.ofNat n

/-- Composes a starter with what follows.  `marks` are the marks behind it that did not compose, the
last one first; a character is blocked by a mark whose class is not lower than its own. -/
def composeAfter (starter : Char) (marks : List Char) : List Char → List Char
  | [] => starter :: marks.reverse
  | c :: rest =>
    let blocked := marks.head?.any fun m => combiningClass c ≤ combiningClass m
    match if blocked then none else composePair starter c with
    | some composed => composeAfter composed marks rest
    | none =>
      if combiningClass c = 0 then starter :: marks.reverse ++ composeAfter c [] rest
      else composeAfter starter (c :: marks) rest

/-- Composes a decomposed and ordered sequence; marks in front of the first starter stay as they are. -/
def compose : List Char → List Char
  | [] => []
  | c :: rest => if combiningClass c = 0 then composeAfter c [] rest else c :: compose rest

/-- Normalization Form C. -/
def nfc (cs : List Char) : List Char :=
  compose (orderMarks (cs.flatMap decompose))

end Scim.Text
