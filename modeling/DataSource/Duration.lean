import DataSource.Number.Binary64
import DataSource.Text.Digits

/-!
# Durations

A signed length of time in whole microseconds, of less than a thousand million days. A duration is
shown in normal form: days of either sign, then seconds of one day and microseconds of one second,
neither of them negative.
-/

namespace DataSource

/-- A length of time in microseconds. -/
@[ext]
structure Duration where
  micros : Int
  inRange : -86399999913600000000 ≤ micros ∧ micros ≤ 86399999999999999999
  deriving DecidableEq

namespace Duration

/-- The duration of `micros` microseconds, if it is not too long. -/
def ofMicros? (micros : Int) : Option Duration :=
  if h : -86399999913600000000 ≤ micros ∧ micros ≤ 86399999999999999999 then some ⟨micros, h⟩
  else none

theorem ofMicros?_micros (d : Duration) : ofMicros? d.micros = some d := by
  unfold ofMicros?
  rw [dif_pos d.inRange]

theorem micros_of_ofMicros? {n : Int} {d : Duration} (h : ofMicros? n = some d) : d.micros = n := by
  unfold ofMicros? at h
  split at h
  · cases h; rfl
  · cases h

/-- The duration of `seconds` seconds, if it is not too long. -/
def ofSeconds? (seconds : Int) : Option Duration := ofMicros? (seconds * 1000000)

def zero : Duration := ⟨0, by decide⟩

def minute : Duration := ⟨60000000, by decide⟩

def isZero (d : Duration) : Bool := d.micros == 0

/-- The seconds of a duration as a binary number. -/
def seconds (d : Duration) : Binary64 :=
  Binary64.ofQuotient (d.micros < 0) d.micros.natAbs 1000000

/-- The whole seconds of a duration: its seconds as a binary number, without what follows the
point. -/
def wholeSeconds (d : Duration) : Int := d.seconds.truncate

/-- The days of the normal form. -/
def days (d : Duration) : Int := d.micros / 86400000000

def secondsOfDay (d : Duration) : Nat := (d.micros % 86400000000 / 1000000).toNat

def microsOfSecond (d : Duration) : Nat := (d.micros % 1000000).toNat

/-- A duration as days and a time of day. -/
def text (d : Duration) : String :=
  let plural := if d.days.natAbs = 1 then "" else "s"
  let dayText := if d.days = 0 then "" else s!"{d.days} day{plural}, "
  let hours := d.secondsOfDay / 3600
  let fraction := if d.microsOfSecond = 0 then "" else "." ++ Text.decimal 6 d.microsOfSecond
  s!"{dayText}{hours}:" ++ Text.decimal 2 (d.secondsOfDay / 60 % 60) ++ ":"
    ++ Text.decimal 2 (d.secondsOfDay % 60) ++ fraction

/-- A duration as the parts of its normal form that are not zero. -/
def summary (d : Duration) : String :=
  let parts :=
    (if d.days = 0 then [] else [s!"days={d.days}"])
    ++ (if d.secondsOfDay = 0 then [] else [s!"seconds={d.secondsOfDay}"])
    ++ (if d.microsOfSecond = 0 then [] else [s!"microseconds={d.microsOfSecond}"])
  "datetime.timedelta(" ++ (if parts.isEmpty then "0" else ", ".intercalate parts) ++ ")"

end Duration

end DataSource
