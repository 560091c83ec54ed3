import Scim.DateTime

/-!
Date-times as text: in the extended notation of ISO 8601, and spelled out in messages.
-/

namespace Scim.DateTime

/-- The decimal digits of `n`, with zeros in front up to the width. -/
def padded (width n : Nat) : String :=
  let digits := Nat.toDigits 10 n
  String.ofList (List.replicate (width - digits.length) '0' ++ digits)

/-- An offset as sign, hours and minutes, with seconds and a fraction only where they are not zero. -/
def offsetText (offset : Int) : String :=
  let size := offset.natAbs
  let seconds := size / 1000000
  let fraction := size % 1000000
  (if offset < 0 then "-" else "+") ++ padded 2 (seconds / 3600) ++ ":" ++ padded 2 (seconds / 60 % 60)
    ++ (if seconds % 60 = 0 ∧ fraction = 0 then "" else ":" ++ padded 2 (seconds % 60))
    ++ (if fraction = 0 then "" else "." ++ padded 6 fraction)

/-- The extended notation, with a fraction only where it is not zero. -/
def isoText (t : DateTime) : String :=
  padded 4 t.year ++ "-" ++ padded 2 t.month ++ "-" ++ padded 2 t.day ++ "T" ++ padded 2 t.hour ++ ":"
    ++ padded 2 t.minute ++ ":" ++ padded 2 t.second
    ++ (if t.microsecond = 0 then "" else "." ++ padded 6 t.microsecond)
    ++ (t.offset.map offsetText).getD ""

/-- A span of time by its days, seconds and microseconds; only the days may be negative. -/
def spanText (microseconds : Int) : String :=
  let days := microseconds / dayMicroseconds
  let rest := microseconds % dayMicroseconds
  let part (name : String) (n : Int) : List String := if n = 0 then [] else [name ++ "=" ++ toString n]
  let parts := part "days" days ++ part "seconds" (rest / 1000000) ++ part "microseconds" (rest % 1000000)
  "datetime.timedelta(" ++ (if parts.isEmpty then "0" else ", ".intercalate parts) ++ ")"

/-- A date-time in a message: its parts in order, without the zeros that end them. -/
def messageText (t : DateTime) : String :=
  let small :=
    if t.microsecond ≠ 0 then [t.second, t.microsecond] else if t.second ≠ 0 then [t.second] else []
  let parts := ([t.year, t.month, t.day, t.hour, t.minute] ++ small).map toString
  let zone :=
    match t.offset with
    | none => []
    | some 0 => ["tzinfo=datetime.timezone.utc"]
    | some o => ["tzinfo=datetime.timezone(" ++ spanText o ++ ")"]
  "datetime.datetime(" ++ ", ".intercalate (parts ++ zone) ++ ")"

end Scim.DateTime
