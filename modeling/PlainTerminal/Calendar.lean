/-!
# Dates

Moments are whole seconds since the start of 1970, in universal time, on the calendar that has a
leap year every four years but not in three of four century years. Years between 0 and 9999 are
written with four digits; all others carry their sign.
-/

namespace PlainTerminal

/-- A moment, in seconds since the start of 1970. -/
structure Timestamp where
  seconds : Int
deriving DecidableEq, Repr, Inhabited

namespace Calendar

/-- A day of the calendar. -/
structure Date where
  year : Int
  month : Nat
  day : Nat
deriving DecidableEq, Repr

/-- The day that is `days` days after the first of January 1970. Years are counted from March, so
that a leap day ends its year; 400 years have 146097 days. -/
def dateOfDays (days : Int) : Date :=
  let shifted := days + 719468
  let era := shifted / 146097
  let dayOfEra := (shifted % 146097).toNat
  let yearOfEra := (dayOfEra - dayOfEra / 1460 + dayOfEra / 36524 - dayOfEra / 146096) / 365
  let dayOfYear := dayOfEra - (365 * yearOfEra + yearOfEra / 4 - yearOfEra / 100)
  let marchMonth := (5 * dayOfYear + 2) / 153
  let day := dayOfYear - (153 * marchMonth + 2) / 5 + 1
  let month := if marchMonth < 10 then marchMonth + 3 else marchMonth - 9
  let year : Int := era * 400 + yearOfEra
  ⟨if month ≤ 2 then year + 1 else year, month, day⟩

/-- A number with at least `width` places, filled up by `fill`. -/
def padded (width : Nat) (fill : Char) (n : Nat) : String :=
  let digits := (toString n).toList
  String.ofList (List.replicate (width - digits.length) fill ++ digits)

/-- A year as it is written. -/
def yearText (year : Int) : String :=
  if 0 ≤ year ∧ year ≤ 9999 then padded 4 '0' year.toNat
  else (if year < 0 then "-" else "+") ++ padded 4 '0' year.natAbs

end Calendar

namespace Timestamp

/-- The day of a moment. -/
def date (t : Timestamp) : Calendar.Date := Calendar.dateOfDays (t.seconds / 86400)

/-- The seconds since midnight. -/
def secondOfDay (t : Timestamp) : Nat := (t.seconds % 86400).toNat

/-- Hours and minutes, as in `09:07`. -/
def clockText (t : Timestamp) : String :=
  Calendar.padded 2 '0' (t.secondOfDay / 3600) ++ ":" ++
    Calendar.padded 2 '0' (t.secondOfDay / 60 % 60)

/-- The form that listings use: `03/05/2024 09:07`. -/
def listingText (t : Timestamp) : String :=
  let d := t.date
  Calendar.padded 2 '0' d.month ++ "/" ++ Calendar.padded 2 '0' d.day ++ "/" ++
    Calendar.yearText d.year ++ " " ++ t.clockText

/-- The names of the days; the first of January 1970 was a Thursday. -/
def dayNames : List String := ["Thu", "Fri", "Sat", "Sun", "Mon", "Tue", "Wed"]

/-- The names of the months. -/
def monthNames : List String :=
  ["Jan", "Feb", "Mar", "Apr", "May", "Jun", "Jul", "Aug", "Sep", "Oct", "Nov", "Dec"]

/-- The long form: `Tue Mar  5 09:07:00 UTC 2024`. -/
def longText (t : Timestamp) : String :=
  let d := t.date
  dayNames.getD ((t.seconds / 86400) % 7).toNat "" ++ " " ++ monthNames.getD (d.month - 1) "" ++
    " " ++ Calendar.padded 2 ' ' d.day ++ " " ++ t.clockText ++ ":" ++
    Calendar.padded 2 '0' (t.secondOfDay % 60) ++ " UTC " ++ Calendar.yearText d.year

/-- The moments that the calendar has dates for: years −262143 to 262142. -/
def isDated (t : Timestamp) : Bool :=
  -8334601228800 ≤ t.seconds && t.seconds ≤ 8210266876799

end Timestamp

end PlainTerminal
