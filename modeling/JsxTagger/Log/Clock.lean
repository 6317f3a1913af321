import JsxTagger.Decimal.Digits

/-!
# Dates and time stamps

The date and the time of day of a moment that is given in seconds since the start of 1970. Years are
counted from March on, so that the leap day is the last day of a year.
-/

namespace JsxTagger.Log

/-- A date with a time of day. -/
structure Moment where
  /-- The year. -/
  year : Int
  /-- The month, counted from 1. -/
  month : Nat
  /-- The day, counted from 1. -/
  day : Nat
  /-- The hour. -/
  hour : Nat
  /-- The minute. -/
  minute : Nat
  /-- The second. -/
  second : Nat
deriving DecidableEq, Repr, Inhabited

/-- The moment a number of seconds after the start of 1970. -/
def Moment.ofSeconds (seconds : Int) : Moment :=
  let shifted := seconds.fdiv 86400 + 719468
  let cycle := shifted.fdiv 146097
  let dayOfCycle := (shifted - cycle * 146097).toNat
  let yearOfCycle :=
    (dayOfCycle - dayOfCycle / 1460 + dayOfCycle / 36524 - dayOfCycle / 146096) / 365
  let dayOfYear := dayOfCycle - (365 * yearOfCycle + yearOfCycle / 4 - yearOfCycle / 100)
  let monthFromMarch := (5 * dayOfYear + 2) / 153
  let month := if monthFromMarch < 10 then monthFromMarch + 3 else monthFromMarch - 9
  let year := yearOfCycle + cycle * 400
  let time := (seconds.fmod 86400).toNat
  { year := if month ≤ 2 then year + 1 else year
    month
    day := dayOfYear - (153 * monthFromMarch + 2) / 5 + 1
    hour := time / 3600
    minute := time / 60 % 60
    second := time % 60 }

/-- A number with two digits. -/
def twoDigits (n : Nat) : String :=
  String.ofList [Decimal.digitChar (n / 10 % 10), Decimal.digitChar (n % 10)]

/-- The year with four digits. -/
def Moment.yearText (m : Moment) : String :=
  twoDigits (m.year.toNat / 100) ++ twoDigits (m.year.toNat % 100)

/-- The date, the year first. -/
def Moment.date (m : Moment) : String :=
  m.yearText ++ "-" ++ twoDigits m.month ++ "-" ++ twoDigits m.day

/-- The stamp of a log line: the date, the day first, and the time of day. -/
def Moment.stamp (m : Moment) : String :=
  twoDigits m.day ++ "-" ++ twoDigits m.month ++ "-" ++ m.yearText ++ " " ++ twoDigits m.hour ++
    ":" ++ twoDigits m.minute ++ ":" ++ twoDigits m.second

end JsxTagger.Log
