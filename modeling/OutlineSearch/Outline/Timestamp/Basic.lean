import OutlineSearch.Calendar.Date
import OutlineSearch.Data.Field

/-!
# Timestamps

A timestamp says when something is scheduled or due, or just names a date.  It may carry
a time of day, the end of a span on the same day, and an interval after which it repeats.
-/

namespace OutlineSearch

/-- What a timestamp is for. -/
inductive Plan where
  | scheduled
  | deadline
  | plain
deriving Repr, DecidableEq

namespace Plan

def name : Plan → String
  | scheduled => "scheduled"
  | deadline => "deadline"
  | plain => "plain"

/-- The label that is written in front of a timestamp. -/
def label? : Plan → Option String
  | scheduled => some "SCHEDULED"
  | deadline => some "DEADLINE"
  | plain => none

/-- The plan that a label announces. -/
def ofLabel? (label : Text) : Option Plan :=
  if label = "DEADLINE".toList then some .deadline
  else if label = "SCHEDULED".toList then some .scheduled
  else none

def ofName? (name : Text) : Option Plan :=
  [scheduled, deadline, plain].find? fun plan => plan.name.toList = name

end Plan

structure Timestamp where
  plan : Plan
  /-- Whether it is written in angle brackets. -/
  isActive : Bool
  start : Moment
  /-- When the span ends, on the day on which it starts. -/
  until? : Option Clock
  /-- The interval as it is written. -/
  interval : Option Text
deriving Repr, DecidableEq

namespace Timestamp

/-- The moment at which the span ends. -/
def finish (t : Timestamp) : Option Moment := t.until?.map (Moment.mk t.start.date)

/-- Whether a time of day is given; midnight counts as none. -/
def hasTime (t : Timestamp) : Bool :=
  t.start.clock.hour != 0 || t.start.clock.minute != 0 || t.start.clock.second != 0

/-- Whether two timestamps are for the same thing and their starts compare as asked: as
dates if the second one has no time of day, as moments otherwise. -/
def comparesWith (moments : Moment → Moment → Bool) (dates : Date → Date → Bool)
    (a b : Timestamp) : Bool :=
  a.plan = b.plan && if b.hasTime then moments a.start b.start else dates a.start.date b.start.date

/-- Whether a timestamp falls on another one: on its day, or on its moment if that has a
time of day. -/
def fallsOn (a b : Timestamp) : Bool :=
  comparesWith (fun x y => x = y) (fun x y => x = y) a b

/-- A timestamp from values.  A span has to end on the day on which it starts. -/
def check (plan : Plan) (isActive : Data) (start : Option Moment) (finish : Option Moment)
    (interval : Data) : Checked Timestamp :=
  let start : Checked Moment := match start with
    | some moment => .passed moment
    | none => (Checked.fail .null .missing).inside "start".toList
  let fields : Checked Timestamp :=
    (fun isActive start interval =>
      { plan := plan, isActive := isActive, start := start, until? := finish.map (·.clock),
        interval := interval })
      <$> (Field.bool isActive).inside "is_active".toList <*> start
      <*> (Field.optional Field.text interval).inside "interval".toList
  fields.andThen fun t =>
    if finish.all fun moment => moment.date = t.start.date then .passed t
    else .fail .null
      (.refused "End of a timestamp range must be on the same day as its start")

end Timestamp

end OutlineSearch
