import DataSource.Duration

/-!
# Dates and times

Calendar dates, times of day, and both together with or without an offset from universal time, as a
configuration file may hold them. `Moment.text` is the form for reading and `Moment.summary` the one
that names the parts.
-/

namespace DataSource

structure Date where
  year : Nat
  month : Nat
  day : Nat
  deriving DecidableEq, Repr

namespace Date

def isLeap (year : Nat) : Bool := year % 4 == 0 && (year % 100 != 0 || year % 400 == 0)

def daysIn (year month : Nat) : Nat :=
  if month = 2 then (if isLeap year then 29 else 28)
  else if month = 4 ∨ month = 6 ∨ month = 9 ∨ month = 11 then 30 else 31

def isValid (d : Date) : Bool :=
  1 ≤ d.year && d.year ≤ 9999 && 1 ≤ d.month && d.month ≤ 12 && 1 ≤ d.day
    && d.day ≤ daysIn d.year d.month

def text (d : Date) : String :=
  Text.decimal 4 d.year ++ "-" ++ Text.decimal 2 d.month ++ "-" ++ Text.decimal 2 d.day

end Date

structure ClockTime where
  hour : Nat
  minute : Nat
  second : Nat
  micros : Nat
  deriving DecidableEq, Repr

namespace ClockTime

def isValid (t : ClockTime) : Bool := t.hour < 24 && t.minute < 60 && t.second < 60

def text (t : ClockTime) : String :=
  Text.decimal 2 t.hour ++ ":" ++ Text.decimal 2 t.minute ++ ":" ++ Text.decimal 2 t.second
    ++ (if t.micros = 0 then "" else "." ++ Text.decimal 6 t.micros)

/-- The parts of a time; seconds and microseconds are left out where only zeros follow. -/
def parts (t : ClockTime) : List Nat :=
  [t.hour, t.minute] ++
    (if t.micros ≠ 0 then [t.second, t.micros] else if t.second ≠ 0 then [t.second] else [])

end ClockTime

/-- A distance from universal time in minutes, with the name it was given by. -/
structure Offset where
  minutes : Int
  name : String
  deriving DecidableEq, Repr

namespace Offset

def text (o : Offset) : String :=
  (if o.minutes < 0 then "-" else "+") ++ Text.decimal 2 (o.minutes.natAbs / 60) ++ ":"
    ++ Text.decimal 2 (o.minutes.natAbs % 60)

def duration (o : Offset) : Duration := (Duration.ofSeconds? (o.minutes * 60)).getD .zero

end Offset

inductive Moment where
  | date (d : Date)
  | time (t : ClockTime)
  | dateTime (d : Date) (t : ClockTime) (offset : Option Offset)
  deriving DecidableEq, Repr

namespace Moment

def text : Moment → String
  | date d => d.text
  | time t => t.text
  | dateTime d t offset => d.text ++ " " ++ t.text ++ ((offset.map Offset.text).getD "")

def arguments (ns : List Nat) : String := ", ".intercalate (ns.map toString)

/-- A moment with its parts named; `quote` shows the name of an offset. -/
def summary (quote : String → String) : Moment → String
  | date d => "datetime.date(" ++ arguments [d.year, d.month, d.day] ++ ")"
  | time t => "datetime.time(" ++ arguments t.parts ++ ")"
  | dateTime d t offset =>
    let zone := match offset with
      | none => ""
      | some o => ", tzinfo=datetime.timezone(" ++ o.duration.summary ++ ", " ++ quote o.name ++ ")"
    "datetime.datetime(" ++ arguments ([d.year, d.month, d.day] ++ t.parts) ++ zone ++ ")"

end Moment

end DataSource
