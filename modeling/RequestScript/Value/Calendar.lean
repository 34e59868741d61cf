import RequestScript.Text.Decimal

/-!
# Dates and times

A date is a day of the Gregorian calendar; a moment adds a time of day and, when it
is known, the distance from universal time.

Main results:

- Definition {lit}`Date.make`: a date from its parts, or which part is out of
  range.
- Definition {lit}`Moment.make`: the same for a moment.
-/

namespace RequestScript

/-- A day of the calendar. -/
structure Date where
  year : Nat
  month : Nat
  day : Nat
deriving DecidableEq, Repr

/-- A day and a time of day; {lit}`offset` is the distance from universal time in
seconds. -/
structure Moment where
  date : Date
  hour : Nat
  minute : Nat
  second : Nat
  microsecond : Nat
  offset : Option Int
deriving DecidableEq, Repr

/-- The parts of a moment that can be out of range. -/
inductive CalendarFault where
  | year (value : Nat)
  | month
  | day
  | hour
  | minute
  | second
  | offset (seconds : Int)
deriving DecidableEq, Repr

/-- Whether a year has a leap day. -/
def isLeapYear (year : Nat) : Bool :=
  year % 4 == 0 && (year % 100 != 0 || year % 400 == 0)

/-- The number of days of a month. -/
def daysIn (year month : Nat) : Nat :=
  if month = 2 then if isLeapYear year then 29 else 28
  else if [4, 6, 9, 11].contains month then 30
  else 31

/-- The date with the given parts. -/
def Date.make (year month day : Nat) : Except CalendarFault Date :=
  if year = 0 then .error (.year year)
  else if month < 1 || 12 < month then .error .month
  else if day < 1 || daysIn year month < day then .error .day
  else .ok ⟨year, month, day⟩

/-- The moment with the given parts. -/
def Moment.make (year month day hour minute second microsecond : Nat) (offset : Option Int) :
    Except CalendarFault Moment := do
  match offset with
  | some seconds => if seconds.natAbs < 86400 then pure () else .error (.offset seconds)
  | none => pure ()
  let date ← Date.make year month day
  if 23 < hour then .error .hour
  else if 59 < minute then .error .minute
  else if 59 < second then .error .second
  else return ⟨date, hour, minute, second, microsecond, offset⟩

/-! ## Instants -/

/-- The number of leap days in the years before a year. -/
def leapDaysBefore (year : Nat) : Nat :=
  let past := year - 1
  past / 4 - past / 100 + past / 400

/-- The number of days before a date. -/
def Date.daysBefore (date : Date) : Nat :=
  365 * (date.year - 1) + leapDaysBefore date.year
    + ((List.range (date.month - 1)).map fun month => daysIn date.year (month + 1)).foldr (· + ·) 0
    + (date.day - 1)

/-- The number of seconds before a moment, on its own clock. -/
def Moment.secondsBefore (moment : Moment) : Nat :=
  ((moment.date.daysBefore * 24 + moment.hour) * 60 + moment.minute) * 60 + moment.second

/-- Whether two moments are the same instant.  A moment whose distance from universal
time is not known is the same only as one that reads the same. -/
def Moment.isSameInstant (first second : Moment) : Bool :=
  match first.offset, second.offset with
  | none, none => first = second
  | some p, some q =>
    (first.secondsBefore : Int) - p = second.secondsBefore - q
      && first.microsecond = second.microsecond
  | _, _ => false

example : (Date.mk 2001 1 1).daysBefore = 730485 := by decide +kernel

/-! ## Written forms -/

/-- A length of time as its parts, of which only the days can be negative. -/
def durationText (seconds : Int) : Text :=
  let days := seconds / 86400
  let rest := seconds % 86400
  let parts :=
    (if days = 0 then [] else ["days=".toList ++ Text.ofInt days])
      ++ (if rest = 0 then [] else ["seconds=".toList ++ Text.ofInt rest])
  "datetime.timedelta(".toList ++ (if parts.isEmpty then ['0'] else Text.join ", ".toList parts)
    ++ [')']

/-- The wording of a fault. -/
def CalendarFault.message : CalendarFault → Text
  | .year value => "year ".toList ++ Text.ofNat value ++ " is out of range".toList
  | .month => "month must be in 1..12".toList
  | .day => "day is out of range for month".toList
  | .hour => "hour must be in 0..23".toList
  | .minute => "minute must be in 0..59".toList
  | .second => "second must be in 0..59".toList
  | .offset seconds =>
    "offset must be a timedelta strictly between -timedelta(hours=24) and ".toList
      ++ "timedelta(hours=24), not ".toList ++ durationText seconds ++ ['.']

/-- Year, month and day, with hyphens between them. -/
def Date.text (date : Date) : Text :=
  Text.padded 10 4 date.year ++ '-' :: Text.padded 10 2 date.month
    ++ '-' :: Text.padded 10 2 date.day

/-- A distance from universal time in hours and minutes. -/
def offsetText (seconds : Int) : Text :=
  let minutes := seconds.natAbs / 60
  (if seconds < 0 then '-' else '+') :: Text.padded 10 2 (minutes / 60)
    ++ ':' :: Text.padded 10 2 (minutes % 60)

/-- Date, time of day and distance from universal time. -/
def Moment.text (moment : Moment) : Text :=
  moment.date.text ++ ' ' :: Text.padded 10 2 moment.hour ++ ':' :: Text.padded 10 2 moment.minute
    ++ ':' :: Text.padded 10 2 moment.second
    ++ (if moment.microsecond = 0 then [] else '.' :: Text.padded 10 6 moment.microsecond)
    ++ (moment.offset.map offsetText).getD []

/-- Numbers between commas, as arguments. -/
def argumentsText (parts : List Nat) : Text :=
  Text.join ", ".toList (parts.map Text.ofNat)

/-- A date inside a list or a mapping. -/
def Date.quoted (date : Date) : Text :=
  "datetime.date(".toList ++ argumentsText [date.year, date.month, date.day] ++ [')']

/-- A distance from universal time inside a list or a mapping. -/
def offsetQuoted (seconds : Int) : Text :=
  if seconds = 0 then "datetime.timezone.utc".toList
  else "datetime.timezone(".toList ++ durationText seconds ++ [')']

/-- A moment inside a list or a mapping: seconds and microseconds are left out at
the end when they are zero. -/
def Moment.quoted (moment : Moment) : Text :=
  let least :=
    if moment.microsecond = 0 then
      if moment.second = 0 then [] else [moment.second]
    else [moment.second, moment.microsecond]
  "datetime.datetime(".toList
    ++ argumentsText ([moment.date.year, moment.date.month, moment.date.day, moment.hour,
      moment.minute] ++ least)
    ++ (moment.offset.map fun seconds => ", tzinfo=".toList ++ offsetQuoted seconds).getD []
    ++ [')']

end RequestScript
