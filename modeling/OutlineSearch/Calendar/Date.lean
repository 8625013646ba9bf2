import OutlineSearch.Text.Basic

/-!
# Days and moments

A date of the Gregorian calendar, extended to all years from 1 to 9999, and a moment: a
date with a time of day down to the microsecond.
-/

namespace OutlineSearch

structure Date where
  year : Nat
  month : Nat
  day : Nat
deriving Repr, DecidableEq

structure Clock where
  hour : Nat
  minute : Nat
  second : Nat := 0
  micro : Nat := 0
deriving Repr, DecidableEq

/-- A moment of a day. -/
structure Moment where
  date : Date
  clock : Clock
deriving Repr, DecidableEq

/-- What is out of range in a date or a time of day. -/
inductive CalendarError where
  | year (value : Int)
  | month
  | day
  | hour
  | minute
  | second
  | micro
deriving Repr, DecidableEq

def CalendarError.message : CalendarError → String
  | .year value => "year " ++ String.ofList (Text.ofInt value) ++ " is out of range"
  | .month => "month must be in 1..12"
  | .day => "day is out of range for month"
  | .hour => "hour must be in 0..23"
  | .minute => "minute must be in 0..59"
  | .second => "second must be in 0..59"
  | .micro => "microsecond must be in 0..999999"

namespace Date

/-- Whether a year has a 29th of February. -/
def isLeapYear (year : Nat) : Bool := year % 4 == 0 && (year % 100 != 0 || year % 400 == 0)

def daysInMonth (year month : Nat) : Nat :=
  if month == 2 then if isLeapYear year then 29 else 28
  else if month == 4 || month == 6 || month == 9 || month == 11 then 30
  else 31

/-- The date with these numbers.  The first number that is out of range is reported. -/
def of? (year month day : Int) : Except CalendarError Date :=
  if year < 1 || 9999 < year then .error (.year year)
  else if month < 1 || 12 < month then .error .month
  else if day < 1 || daysInMonth year.toNat month.toNat < day then .error .day
  else .ok ⟨year.toNat, month.toNat, day.toNat⟩

/-- The number of days before the first day of a year, counted from the year 1. -/
def daysBeforeYear (year : Nat) : Nat :=
  let y := year - 1
  y * 365 + y / 4 - y / 100 + y / 400

def daysBeforeMonth (year month : Nat) : Nat :=
  (List.range (month - 1)).foldl (fun days m => days + daysInMonth year (m + 1)) 0

/-- The number of the day, the first day of the year 1 being the first. -/
def ordinal (d : Date) : Nat :=
  daysBeforeYear d.year + daysBeforeMonth d.year d.month + d.day

/-- The day of the week, Monday being 0. -/
def weekday (d : Date) : Nat := (d.ordinal + 6) % 7

def lt (a b : Date) : Bool :=
  a.year < b.year || (a.year == b.year
    && (a.month < b.month || (a.month == b.month && a.day < b.day)))

/-- The date as year, month and day. -/
def iso (d : Date) : Text :=
  Text.padded 4 d.year ++ '-' :: Text.padded 2 d.month ++ '-' :: Text.padded 2 d.day

end Date

namespace Clock

def midnight : Clock := ⟨0, 0, 0, 0⟩

/-- The time of day with these numbers.  The first number out of range is reported. -/
def of? (hour minute second micro : Int) : Except CalendarError Clock :=
  if hour < 0 || 23 < hour then .error .hour
  else if minute < 0 || 59 < minute then .error .minute
  else if second < 0 || 59 < second then .error .second
  else if micro < 0 || 999999 < micro then .error .micro
  else .ok ⟨hour.toNat, minute.toNat, second.toNat, micro.toNat⟩

/-- The microseconds that have passed of the day. -/
def micros (c : Clock) : Nat := ((c.hour * 60 + c.minute) * 60 + c.second) * 1000000 + c.micro

/-- Hour and minute. -/
def short (c : Clock) : Text := Text.padded 2 c.hour ++ ':' :: Text.padded 2 c.minute

end Clock

namespace Moment

def lt (a b : Moment) : Bool :=
  a.date.lt b.date || (a.date = b.date && a.clock.micros < b.clock.micros)

/-- The microseconds from the day before the year 1 to a moment in universal time, if its clock
is ahead of that by `minutes`. -/
def microsAt (minutes : Int) (m : Moment) : Int :=
  (m.date.ordinal * 1440 - minutes) * 60000000 + m.clock.micros

/-- The moment as date and time; microseconds are written only if there are any. -/
def iso (m : Moment) : Text :=
  let fraction := if m.clock.micro = 0 then [] else '.' :: Text.padded 6 m.clock.micro
  m.date.iso ++ 'T' :: m.clock.short ++ ':' :: Text.padded 2 m.clock.second ++ fraction

end Moment

end OutlineSearch
