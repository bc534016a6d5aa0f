import VariantIter.Calendar
import VariantIter.Text.Lines
import VariantIter.Value.Basic

/-!
Days and moments as YAML spells them: year, month and day with hyphens between them, then perhaps a time
of day with a fraction of a second and the difference from universal time.
-/

namespace VariantIter.Yaml

/-- A time of day with the difference from universal time in minutes, if one is given. -/
structure Clock where
  hour : Nat
  minute : Nat
  second : Nat
  microsecond : Nat
  offset : Option Int
deriving DecidableEq, Repr

/-- The numbers of a day, which need not be one of the calendar, and a time of day. -/
structure Stamp where
  year : Nat
  month : Nat
  day : Nat
  clock : Option Clock
deriving DecidableEq, Repr

namespace Stamp

/-- A number of one digit or two. -/
def short? (cs : List Char) : Option Nat :=
  if (cs.length == 1 || cs.length == 2) && cs.all Text.isDigit then some (Text.readDigits 10 cs)
  else none

/-- A number of exactly so many digits. -/
def fixed? (width : Nat) (cs : List Char) : Option Nat :=
  if cs.length == width && cs.all Text.isDigit then some (Text.readDigits 10 cs) else none

def isInset (c : Char) : Bool :=
  c == ' ' || c == '\t'

/-- Hours, or hours and minutes, in minutes. -/
def offsetSize (cs : List Char) : Option Nat :=
  match Text.splitOn (· == ':') cs with
  | [hour] => (short? hour).map (· * 60)
  | [hour, minute] => do return (← short? hour) * 60 + (← fixed? 2 minute)
  | _ => none

/-- The difference from universal time after a time of day: none, zero, or a number of hours and
minutes with a sign. -/
def readOffset (cs : List Char) : Option (Option Int) :=
  match cs.dropWhile isInset with
  | [] => if cs.isEmpty then some none else none
  | ['Z'] => some (some 0)
  | sign :: rest => do
      let size ← offsetSize rest
      if sign == '+' then return some (size : Int)
      else if sign == '-' then return some (-(size : Int))
      else none

/-- A fraction of a second, cut off after six digits. -/
def readFraction (digits : List Char) : Nat :=
  let digits := digits.take 6
  Text.readDigits 10 digits * Nat.pow 10 (6 - digits.length)

/-- A time of day up to the end. -/
def readClock (cs : List Char) : Option Clock := do
  let (hour, rest) := cs.span Text.isDigit
  match rest with
  | ':' :: m :: m' :: ':' :: s :: s' :: rest => do
      let hour ← short? hour
      let minute ← fixed? 2 [m, m']
      let second ← fixed? 2 [s, s']
      let (fraction, rest) := match rest with
        | '.' :: rest => rest.span Text.isDigit
        | rest => ([], rest)
      let offset ← readOffset rest
      return ⟨hour, minute, second, readFraction fraction, offset⟩
  | _ => none

/-- What follows a day: nothing, or a time of day after a letter or white space. -/
def readRest (cs : List Char) : Option (Option Clock) :=
  match cs with
  | [] => some none
  | sep :: rest =>
      if sep == 'T' || sep == 't' then (readClock rest).map some
      else if isInset sep then (readClock (rest.dropWhile isInset)).map some
      else none

/-- The day and the time that characters spell. -/
def read? (cs : List Char) : Option Stamp := do
  let year ← fixed? 4 (cs.take 4)
  match cs.drop 4 with
  | '-' :: rest => do
      let (month, rest) := rest.span Text.isDigit
      let month ← short? month
      match rest with
      | '-' :: rest => do
          let (day, rest) := rest.span Text.isDigit
          let day ← short? day
          let clock ← readRest rest
          return ⟨year, month, day, clock⟩
      | _ => none
  | _ => none

/-- The day or the moment; the difference from universal time is checked first. -/
def value (stamp : Stamp) : Except CalendarFault Value :=
  match stamp.clock with
  | none => (Date.make stamp.year stamp.month stamp.day).map Value.date
  | some clock => do
      let offset ← clock.offset.mapM Moment.checkOffset
      let moment ← Moment.make stamp.year stamp.month stamp.day clock.hour clock.minute clock.second
        clock.microsecond offset
      return .moment moment

end Stamp

end VariantIter.Yaml
