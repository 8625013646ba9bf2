import OutlineSearch.Outline.Timestamp.Basic

/-!
# Writing timestamps
-/

namespace OutlineSearch.Timestamp

/-- The abbreviations of the weekdays, Monday first. -/
def weekdayNames : List String := ["Mon", "Tue", "Wed", "Thu", "Fri", "Sat", "Sun"]

def weekdayName (d : Date) : Text := (weekdayNames[d.weekday]?.getD "").toList

/-- A date in a timestamp; the year is not filled up with zeros. -/
def dateText (d : Date) : Text :=
  Text.ofNat d.year ++ '-' :: Text.padded 2 d.month ++ '-' :: Text.padded 2 d.day

/-- The time of day or the span, if there is one to be written. -/
def timeText (t : Timestamp) : List Text :=
  match t.until? with
  | some finish => [t.start.clock.short ++ '-' :: finish.short]
  | none => if t.hasTime then [t.start.clock.short] else []

/-- The interval, if there is one to be written. -/
def intervalText (t : Timestamp) : List Text :=
  match t.interval with
  | some interval => if interval.isEmpty then [] else [interval]
  | none => []

def render (t : Timestamp) : Text :=
  let parts := dateText t.start.date :: weekdayName t.start.date :: timeText t ++ intervalText t
  let body := Text.join [' '] parts
  let bracketed := if t.isActive then '<' :: body ++ ['>'] else '[' :: body ++ [']']
  match t.plan.label? with
  | some label => label.toList ++ ':' :: ' ' :: bracketed
  | none => bracketed

end OutlineSearch.Timestamp
