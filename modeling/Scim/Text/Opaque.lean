import Scim.Text.Assigned
import Scim.Text.Blank
import Scim.Text.Ignorable
import Scim.Text.Joining
import Scim.Text.NormalForm
import Scim.Text.Script

/-!
The profile for opaque strings: other spaces become U+0020, the text is brought to Normalization
Form C, and every character must then be allowed where it stands.
-/

namespace Scim.Text

/-- Why a text is not an opaque string. -/
inductive Disallowance
  | empty
  | exception
  | unassigned
  | oldHangulJamo
  | ignorable
  | control
  | other
  | middleDot
  | greekKeraia
  | hebrewPunctuation
  | katakanaMiddleDot
  | arabicIndic
  | extendedArabicIndic
  | zeroWidthJoiner
  | zeroWidthNonjoiner
  deriving DecidableEq, Repr

/-- The name of the rule that a text breaks. -/
def Disallowance.rule : Disallowance → String
  | .empty => "empty"
  | .exception => "exceptions"
  | .unassigned => "unassigned"
  | .oldHangulJamo => "old_hangul_jamo"
  | .ignorable => "precis_ignorable_properties"
  | .control => "controls"
  | .other => "other"
  | .middleDot => "middle_dot"
  | .greekKeraia => "greek_keraia"
  | .hebrewPunctuation => "hebrew_punctuation"
  | .katakanaMiddleDot => "katakana_middle_dot"
  | .arabicIndic => "arabic_indic"
  | .extendedArabicIndic => "extended_arabic_indic"
  | .zeroWidthJoiner => "zero_width_joiner"
  | .zeroWidthNonjoiner => "zero_width_nonjoiner"

/-- A broken rule with the part of the mapped text that breaks it. -/
structure DisallowedText where
  reason : Disallowance
  first : Nat
  last : Nat
  deriving DecidableEq, Repr

/-- Allowed although their properties would forbid them. -/
def allowedExceptions : List Nat :=
  [0xDF, 0x3C2, 0x6FD, 0x6FE, 0xF0B, 0x3007]

/-- Forbidden although their properties would allow them. -/
def disallowedExceptions : List Nat :=
  [0x640, 0x7FA, 0x302E, 0x302F, 0x3031, 0x3032, 0x3033, 0x3034, 0x3035, 0x303B]

def isArabicIndic (c : Char) : Bool := 0x660 ≤ c.toNat && c.toNat ≤ 0x669

def isExtendedArabicIndic (c : Char) : Bool := 0x6F0 ≤ c.toNat && c.toNat ≤ 0x6F9

/-- Conjoining letters of old Korean writing. -/
def isOldHangulJamo (c : Char) : Bool :=
  inRanges c.toNat [(0x1100, 0x11FF), (0xA960, 0xA97C), (0xD7B0, 0xD7C6), (0xD7CB, 0xD7FB)]

def isControl (c : Char) : Bool :=
  c.toNat < 0x20 || (0x7F ≤ c.toNat && c.toNat < 0xA0)

/-- Whether a cursive connection crosses a place, given the characters before it (the nearest first)
and after it. -/
def joinsAcross (before after : List Char) : Bool :=
  (before.find? fun c => !isJoinTransparent c).any joinsToNext &&
    (after.find? fun c => !isJoinTransparent c).any joinsToPrevious

def followsVirama (before : List Char) : Bool :=
  before.head?.any fun c => combiningClass c = viramaClass

/-- The rule for a character that is allowed in some surroundings only: its name and whether it is met.
`before` holds the characters in front (the nearest first), `after` those behind. -/
def contextRule? (before : List Char) (c : Char) (after : List Char) : Option (Disallowance × Bool) :=
  let anywhere (p : Char → Bool) := before.any p || after.any p
  if c.toNat = 0xB7 then
    some (.middleDot, before.head? = some 'l' && after.head? = some 'l')
  else if c.toNat = 0x375 then some (.greekKeraia, after.head?.any isGreek)
  else if c.toNat = 0x5F3 ∨ c.toNat = 0x5F4 then some (.hebrewPunctuation, before.head?.any isHebrew)
  else if c.toNat = 0x30FB then some (.katakanaMiddleDot, anywhere isKanaOrHan)
  else if isArabicIndic c then some (.arabicIndic, !anywhere isExtendedArabicIndic)
  else if isExtendedArabicIndic c then some (.extendedArabicIndic, !anywhere isArabicIndic)
  else if c.toNat = 0x200C then
    some (.zeroWidthNonjoiner, followsVirama before || joinsAcross before after)
  else if c.toNat = 0x200D then some (.zeroWidthJoiner, followsVirama before)
  else none

/-- Why a character is not allowed where it stands, if it is not. -/
def disallowance? (before : List Char) (c : Char) (after : List Char) : Option Disallowance :=
  if 0x20 ≤ c.toNat ∧ c.toNat < 0x7F then none
  else if allowedExceptions.contains c.toNat then none
  else if disallowedExceptions.contains c.toNat then some .exception
  else
    match contextRule? before c after with
    | some (rule, met) => if met then none else some rule
    | none =>
      if isNoncharacter c then some .ignorable
      else if isUnassigned c then some .unassigned
      else if isOldHangulJamo c then some .oldHangulJamo
      else if isIgnorable c then some .ignorable
      else if isControl c then some .control
      else if isShapeless c then some .other
      else none

/-- The first character that is not allowed, with its position.  `before` holds the characters already
passed (the nearest first). -/
def firstDisallowed? (before : List Char) : List Char → Option (Disallowance × Nat)
  | [] => none
  | c :: rest =>
    match disallowance? before c rest with
    | some reason => some (reason, before.length)
    | none => firstDisallowed? (c :: before) rest

/-- The mappings of the profile: spaces become U+0020 and the text takes Normalization Form C. -/
def opaqueForm (cs : List Char) : List Char :=
  nfc (cs.map fun c => if isSpaceSeparator c then ' ' else c)

/-- Brings a text to its opaque form, or names the first rule that the mapped text breaks. -/
def enforceOpaque (cs : List Char) : Except DisallowedText (List Char) :=
  let mapped := opaqueForm cs
  if mapped.isEmpty then .error ⟨.empty, 0, mapped.length⟩
  else
    match firstDisallowed? [] mapped with
    | some (reason, position) => .error ⟨reason, position, position + 1⟩
    | none => .ok mapped

end Scim.Text
