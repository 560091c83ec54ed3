/-!
Date-times of the Gregorian calendar, with or without an offset from UTC, and the points in time that
they name.
-/

namespace Scim

structure DateTime where
  year : Nat
  month : Nat
  day : Nat
  hour : Nat
  minute : Nat
  second : Nat
  microsecond : Nat
  /-- Microseconds east of UTC; `none` leaves open where the clock stands. -/
  offset : Option Int
  deriving DecidableEq, Repr

namespace DateTime

def isLeap (year : Nat) : Bool :=
  year % 4 = 0 && (year % 100 ≠ 0 || year % 400 = 0)

def daysInYear (year : Nat) : Nat :=
  if isLeap year then 366 else 365

def monthLengths (year : Nat) : List Nat :=
  [31, if isLeap year then 29 else 28, 31, 30, 31, 30, 31, 31, 30, 31, 30, 31]

/-- Days from the start of the year to the start of the month. -/
def daysBeforeMonth (year month : Nat) : Nat :=
  ((monthLengths year).take (month - 1)).foldl (· + ·) 0

/-- Days from the start of the year 1 to the start of the year. -/
def daysBeforeYear (year : Nat) : Nat :=
  let past := year - 1
  365 * past + past / 4 - past / 100 + past / 400

/-- The day's number when the first day of the year 1 has number 1. -/
def dayNumber (year month day : Nat) : Nat :=
  daysBeforeYear year + daysBeforeMonth year month + day

/-- The longest offset, exclusive: one day. -/
def dayMicroseconds : Int := 86400000000

/-- Whether the fields name a day and a time of the years 1 to 9999, less than a day away from UTC. -/
def IsValid (t : DateTime) : Prop :=
  1 ≤ t.year ∧ t.year ≤ 9999 ∧ 1 ≤ t.month ∧ t.month ≤ 12 ∧ 1 ≤ t.day ∧
    t.day ≤ (monthLengths t.year).getD (t.month - 1) 0 ∧
    t.hour < 24 ∧ t.minute < 60 ∧ t.second < 60 ∧ t.microsecond < 1000000 ∧
    ∀ o ∈ t.offset, -dayMicroseconds < o ∧ o < dayMicroseconds

instance (t : DateTime) : Decidable t.IsValid :=
  inferInstanceAs (Decidable (_ ∧ _))

/-- Microseconds that the clock shows since the day before the year 1. -/
def clock (t : DateTime) : Int :=
  (((dayNumber t.year t.month t.day * 24 + t.hour) * 60 + t.minute) * 60 + t.second : Nat) * 1000000
    + t.microsecond

/-- The point in time, on the scale of `clock` at UTC, if the offset is known. -/
def instant? (t : DateTime) : Option Int :=
  t.offset.map (t.clock - ·)

/-- Two date-times are the same if they name the same point in time, or show the same clock without
saying where. -/
def same (t u : DateTime) : Bool :=
  match t.instant?, u.instant? with
  | some a, some b => a = b
  | none, none => t.clock = u.clock
  | _, _ => false

/-- Whether the first is earlier; date-times with and without offset have no order. -/
def lt? (t u : DateTime) : Option Bool :=
  match t.instant?, u.instant? with
  | some a, some b => some (a < b)
  | none, none => some (t.clock < u.clock)
  | _, _ => none

/-- A clock without offset is taken to show UTC. -/
def assumeUtc (t : DateTime) : DateTime :=
  { t with offset := some (t.offset.getD 0) }

theorem instant?_assumeUtc (t : DateTime) : t.assumeUtc.instant? = some (t.clock - t.offset.getD 0) :=
  rfl

end DateTime

end Scim
