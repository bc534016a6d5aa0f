import VariantIter.Text.Literal

/-!
Days of the calendar and moments of a day.

A moment may say by how much its clock differs from universal time. Moments that do are compared as
points of time; one that does and one that does not are never equal and cannot be compared.
-/

namespace VariantIter

/-- A day of the calendar. -/
structure Date where
  year : Nat
  month : Nat
  day : Nat
deriving DecidableEq, Repr

/-- Why numbers make no day, no moment or no difference of clocks. -/
inductive CalendarFault where
  | year (number : Nat)
  | month
  | day
  | hour
  | minute
  | second
  | offset (minutes : Int)
deriving DecidableEq, Repr

namespace Date

def isLeap (year : Nat) : Bool :=
  year % 4 == 0 && (year % 100 != 0 || year % 400 == 0)

def daysIn (year month : Nat) : Nat :=
  if month = 2 then (if isLeap year then 29 else 28)
  else if month = 4 ∨ month = 6 ∨ month = 9 ∨ month = 11 then 30
  else 31

/-- The day of the given numbers; year, month and day are checked in this order. -/
def make (year month day : Nat) : Except CalendarFault Date :=
  if year = 0 then .error (.year year)
  else if month < 1 ∨ 12 < month then .error .month
  else if day < 1 ∨ daysIn year month < day then .error .day
  else .ok ⟨year, month, day⟩

/-- The number of days before the first of January of a year. -/
def daysBeforeYear (year : Nat) : Nat :=
  let before := year - 1
  before * 365 + before / 4 - before / 100 + before / 400

/-- The number of the day, counted from the first of January of the year 1. -/
def ordinal (d : Date) : Nat :=
  let before := (List.range (d.month - 1)).map fun m => daysIn d.year (m + 1)
  daysBeforeYear d.year + before.foldr (· + ·) 0 + (d.day - 1)

def precedes (d e : Date) : Bool :=
  decide (d.ordinal < e.ordinal)

/-- The day in the form year-month-day. -/
def chars (d : Date) : List Char :=
  Text.padded 4 d.year ++ '-' :: Text.padded 2 d.month ++ '-' :: Text.padded 2 d.day

def text (d : Date) : Text :=
  Text.ofChars d.chars

def literal (d : Date) : Text :=
  "datetime.date(" ++ Text.joined ", " ([d.year, d.month, d.day].map Text.ofNat) ++ ")"

end Date

/-- A day and a time of day, with the difference from universal time in minutes if it is known. -/
structure Moment where
  date : Date
  hour : Nat
  minute : Nat
  second : Nat
  microsecond : Nat
  offset : Option Int
deriving DecidableEq, Repr

/-- Minutes as days and seconds, the seconds being less than a day. -/
def spanLiteral (minutes : Int) : Text :=
  let days := minutes.fdiv 1440
  let seconds := (minutes.fmod 1440) * 60
  let parts : List Text :=
    (if days = 0 then [] else ["days=" ++ Text.ofInt days]) ++
      (if seconds = 0 then [] else ["seconds=" ++ Text.ofInt seconds])
  let shown : Text := if parts.isEmpty then "0" else Text.joined ", " parts
  "datetime.timedelta(" ++ shown ++ ")"

namespace CalendarFault

def message : CalendarFault → Text
  | .year number => "year " ++ Text.ofNat number ++ " is out of range"
  | .month => "month must be in 1..12"
  | .day => "day is out of range for month"
  | .hour => "hour must be in 0..23"
  | .minute => "minute must be in 0..59"
  | .second => "second must be in 0..59"
  | .offset minutes =>
      "offset must be a timedelta strictly between -timedelta(hours=24) and " ++
        "timedelta(hours=24), not " ++ spanLiteral minutes ++ "."

end CalendarFault

namespace Moment

/-- A difference from universal time is less than a day. -/
def checkOffset (minutes : Int) : Except CalendarFault Int :=
  if minutes.natAbs < 1440 then .ok minutes else .error (.offset minutes)

/-- The moment of the given numbers, checked in order. -/
def make (year month day hour minute second microsecond : Nat) (offset : Option Int) :
    Except CalendarFault Moment := do
  let date ← Date.make year month day
  if 23 < hour then throw .hour
  if 59 < minute then throw .minute
  if 59 < second then throw .second
  return ⟨date, hour, minute, second, microsecond, offset⟩

/-- Microseconds from the start of the calendar to the moment, in universal time if that is known. -/
def instant (m : Moment) : Int :=
  let minutes : Int := (m.date.ordinal * 24 + m.hour) * 60 + m.minute - m.offset.getD 0
  (minutes * 60 + m.second) * 1000000 + m.microsecond

/-- Both moments say how their clocks differ from universal time, or neither does. -/
def comparable (m n : Moment) : Bool :=
  m.offset.isSome == n.offset.isSome

def same (m n : Moment) : Bool :=
  m.comparable n && m.instant == n.instant

def precedes (m n : Moment) : Bool :=
  decide (m.instant < n.instant)

/-- The difference from universal time as hours and minutes with a sign. -/
def offsetChars (minutes : Int) : List Char :=
  (if minutes < 0 then '-' else '+') ::
    Text.padded 2 (minutes.natAbs / 60) ++ ':' :: Text.padded 2 (minutes.natAbs % 60)

/-- The moment as a day, a space and a time of day. -/
def chars (m : Moment) : List Char :=
  let clock := Text.padded 2 m.hour ++ ':' :: Text.padded 2 m.minute ++ ':' ::
    Text.padded 2 m.second
  let fraction := if m.microsecond = 0 then [] else '.' :: Text.padded 6 m.microsecond
  let zone := match m.offset with
    | none => []
    | some minutes => offsetChars minutes
  m.date.chars ++ ' ' :: clock ++ fraction ++ zone

def text (m : Moment) : Text :=
  Text.ofChars m.chars

/-- Seconds and fractions of a second are only shown if there are any. -/
def literal (m : Moment) : Text :=
  let small :=
    if m.microsecond != 0 then [m.second, m.microsecond]
    else if m.second != 0 then [m.second]
    else []
  let numbers := [m.date.year, m.date.month, m.date.day, m.hour, m.minute] ++ small
  let zone : List Text := match m.offset with
    | none => []
    | some minutes =>
        if minutes = 0 then ["tzinfo=datetime.timezone.utc"]
        else ["tzinfo=datetime.timezone(" ++ spanLiteral minutes ++ ")"]
  "datetime.datetime(" ++ Text.joined ", " (numbers.map Text.ofNat ++ zone) ++ ")"

end Moment

end VariantIter
