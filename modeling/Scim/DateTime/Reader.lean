import Scim.DateTime

/-!
Reading date-times in the notations of ISO 8601: calendar or week dates, with or without separators,
then one character, and a time with an optional fraction and offset.
-/

namespace Scim.DateTime

-- `^` is the power of the core library, whatever else is in scope.
attribute [local instance (high)] instPowNat

def isDigit (c : Char) : Bool :=
  '0' ≤ c && c ≤ '9'

/-- The character that stands for the end of a text. -/
def endMark : Char := '\x00'

/-- Reads exactly `count` digits. -/
def readDigits? (count : Nat) (cs : List Char) : Option (Nat × List Char) :=
  let digits := cs.take count
  if digits.length = count && digits.all isDigit then
    some (digits.foldl (fun n c => 10 * n + (c.toNat - '0'.toNat)) 0, cs.drop count)
  else none

/-- Skips a hyphen where one is due. -/
def skipHyphen? (due : Bool) (cs : List Char) : Option (List Char) :=
  if due then
    match cs with
    | '-' :: rest => some rest
    | _ => none
  else some cs

/-- The day of the week of the first of January, counted from Monday as 0. -/
def newYearWeekday (year : Nat) : Nat :=
  (daysBeforeYear year) % 7

/-- Whether the week-numbering year has 53 weeks. -/
def hasLongYear (year : Nat) : Bool :=
  newYearWeekday year = 3 || (newYearWeekday year = 2 && isLeap year)

/-- The month and day at a distance from the first of January. -/
def monthDay (distance : Nat) (month : Nat) : List Nat → Nat × Nat
  | [] => (month, distance + 1)
  | length :: rest =>
    if distance < length then (month, distance + 1) else monthDay (distance - length) (month + 1) rest

/-- The calendar date of a day in a week of a week-numbering year.  Week 1 holds the fourth of January. -/
def ofWeekDate? (year week day : Nat) : Option (Nat × Nat × Nat) :=
  if week = 0 ∨ 53 < week ∨ (week = 53 ∧ !hasLongYear year) ∨ day = 0 ∨ 7 < day ∨ year = 0 then none
  else
    let first := newYearWeekday year
    let monday : Int := if first ≤ 3 then -(first : Int) else 7 - first
    let distance := monday + (week - 1) * 7 + (day - 1)
    if distance < 0 then
      let (m, d) := monthDay (daysInYear (year - 1) + distance).toNat 1 (monthLengths (year - 1))
      some (year - 1, m, d)
    else if distance < daysInYear year then
      let (m, d) := monthDay distance.toNat 1 (monthLengths year)
      some (year, m, d)
    else
      let (m, d) := monthDay (distance - daysInYear year).toNat 1 (monthLengths (year + 1))
      some (year + 1, m, d)

/-- How many characters the date takes.  Where a week date may go on with a day or end before a time,
the characters behind it decide. -/
def dateSize? (cs : List Char) : Option Nat :=
  let charAt (i : Nat) : Char := cs.getD i endMark
  if cs.length = 7 then some 7
  else if charAt 4 = '-' then
    if charAt 5 = 'W' then
      if 8 < cs.length ∧ charAt 8 = '-' then
        if cs.length = 9 then none
        else if 10 < cs.length ∧ isDigit (charAt 10) then some 8
        else some 10
      else some 8
    else some 10
  else if charAt 4 = 'W' then
    let size := 7 + ((cs.drop 7).takeWhile isDigit).length
    if size < 9 then some size else if size % 2 = 0 then some 7 else some 8
  else some 8

/-- Reads a date that takes the whole text. -/
def readDate? (cs : List Char) : Option (Nat × Nat × Nat) := do
  let (year, rest) ← readDigits? 4 cs
  let separated := rest.head? = some '-'
  let rest := if separated then rest.drop 1 else rest
  match rest with
  | 'W' :: rest => do
    let (week, rest) ← readDigits? 2 rest
    if rest.isEmpty then ofWeekDate? year week 1
    else do
      let rest ← skipHyphen? separated rest
      let (day, _) ← readDigits? 1 rest
      ofWeekDate? year week day
  | _ => do
    let (month, rest) ← readDigits? 2 rest
    let rest ← skipHyphen? separated rest
    let (day, rest) ← readDigits? 2 rest
    if rest.isEmpty then some (year, month, day) else none

/-- A time of day as read: its parts in order (hour, minute, second), its microseconds, and whether
characters are left. -/
structure TimeReading where
  parts : List Nat
  microsecond : Nat
  leftover : Bool

/-- Reads the fraction of a second: up to six digits count, further ones are skipped. -/
def readFraction? (parts : List Nat) (next : Char) (cs : List Char) : Option TimeReading := do
  let count := min 6 cs.length
  let (n, rest) ← readDigits? count cs
  let behind := (rest.dropWhile isDigit).headD next
  some ⟨parts, n * 10 ^ (6 - count), behind ≠ endMark⟩

/-- Reads hour, minute and second of two digits each, with colons between them or with none, and a
fraction.  `left` counts the parts still to come; `next` is the character behind the text. -/
def readParts? (next : Char) : Nat → Option Bool → List Nat → List Char → Option TimeReading
  | 0, _, parts, cs => readFraction? parts next cs
  | left + 1, colons?, parts, cs => do
    let (n, rest) ← readDigits? 2 cs
    let parts := parts ++ [n]
    match rest with
    | [] => some ⟨parts, 0, next ≠ endMark⟩
    | c :: rest =>
      let colons := colons?.getD (c = ':')
      if rest.isEmpty then some ⟨parts, 0, c ≠ endMark⟩
      else if colons && c = ':' then readParts? next left colons parts rest
      else if c = '.' || c = ',' then readFraction? parts next rest
      else if !colons then readParts? next left colons parts (c :: rest)
      else none

def readTimeOfDay? (next : Char) (cs : List Char) : Option TimeReading :=
  readParts? next 3 none [] cs

/-- The seconds that the parts of a reading make up. -/
def TimeReading.seconds (r : TimeReading) : Nat :=
  r.parts.getD 0 0 * 3600 + r.parts.getD 1 0 * 60 + r.parts.getD 2 0

/-- Reads what follows the time of day: nothing, the letter `Z`, or a signed offset.  An offset of no
whole second is none at all. -/
def readOffset? (leftover : Bool) : List Char → Option (Option Int)
  | [] => if leftover then none else some none
  | 'Z' :: rest => if rest.headD endMark = endMark then some (some 0) else none
  | sign :: rest => do
    let reading ← readTimeOfDay? endMark rest
    if reading.leftover then none
    else
      let size : Int := if reading.seconds = 0 then 0
        else reading.seconds * 1000000 + reading.microsecond
      some (some (if sign = '-' then -size else size))

/-- The text with each character repeated as often as its UTF-8 form has bytes: places in a date-time
count bytes. -/
def bytePlaces (text : List Char) : List Char :=
  text.flatMap fun c => List.replicate c.utf8Size c

/-- Reads a date-time that takes the whole text. -/
def read? (text : List Char) : Option DateTime := do
  let places := bytePlaces text
  if places.length < 7 then none
  else
    let size ← dateSize? places
    let (year, month, day) ← readDate? (places.take size)
    let (reading, offset) ←
      match places.drop size with
      | [] => some (⟨[], 0, false⟩, none)
      | separator :: rest => do
        let time := rest.drop (separator.utf8Size - 1)
        let isOffsetSign (c : Char) : Bool := c = '+' || c = '-' || c = 'Z'
        let clockText := time.takeWhile fun c => !isOffsetSign c
        let offsetText := time.dropWhile fun c => !isOffsetSign c
        let reading ← readTimeOfDay? (offsetText.headD endMark) clockText
        let offset ← readOffset? reading.leftover offsetText
        some (reading, offset)
    let result : DateTime :=
      { year, month, day
        hour := reading.parts.getD 0 0
        minute := reading.parts.getD 1 0
        second := reading.parts.getD 2 0
        microsecond := reading.microsecond
        offset }
    if result.IsValid then some result else none

end Scim.DateTime
