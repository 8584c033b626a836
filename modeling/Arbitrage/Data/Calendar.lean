import Arbitrage.Fault

namespace Arbitrage

/-- A calendar date. -/
structure Date where
  year : Nat
  month : Nat
  day : Nat
  deriving DecidableEq, Inhabited, Repr

/-- A moment: a date, a time of day to the microsecond, and the offset from UTC in seconds
when the moment is tied to one. -/
structure Moment where
  date : Date
  hour : Nat
  minute : Nat
  second : Nat
  micro : Nat
  offset : Option Int
  deriving DecidableEq, Inhabited, Repr

namespace Date

/-- Leap years: every fourth year, except centuries not divisible by 400. -/
def isLeap (year : Nat) : Bool := year % 4 == 0 && (year % 100 != 0 || year % 400 == 0)

/-- The number of days of a month. -/
def daysIn (year month : Nat) : Nat :=
  match month with
  | 2 => if isLeap year then 29 else 28
  | 4 | 6 | 9 | 11 => 30
  | _ => 31

/-- A checked date: the year, then the month, then the day must be in range. -/
def make (year month day : Nat) : Except Fault Date := do
  if year < 1 || 9999 < year then throw (.invalid s!"year {year} is out of range")
  if month < 1 || 12 < month then throw (.invalid "month must be in 1..12")
  if day < 1 || daysIn year month < day then throw (.invalid "day is out of range for month")
  pure ⟨year, month, day⟩

def daysBefore (year : Nat) : Nat → Nat
  | 0 => 0
  | m + 1 => daysBefore year m + daysIn year (m + 1)

/-- The number of days from 0001-01-01 to the date. -/
def ordinal (d : Date) : Nat :=
  let y := d.year - 1
  let before := y * 365 + y / 4 - y / 100 + y / 400
  before + daysBefore d.year (d.month - 1) + (d.day - 1)

end Date

def padded (width n : Nat) : String :=
  let ds := Nat.toDigits 10 n
  String.ofList (List.replicate (width - ds.length) '0' ++ ds)

/-- The text of a length of time given in seconds, as its constructor form shows it: whole
days (negative for a negative length) and the seconds left over, each only when not zero. -/
def durationLiteral (seconds : Int) : String :=
  let days := seconds.fdiv 86400
  let rest := seconds - days * 86400
  let parts := (if days != 0 then [s!"days={days}"] else []) ++
    (if rest != 0 then [s!"seconds={rest}"] else [])
  if parts.isEmpty then "datetime.timedelta(0)"
  else "datetime.timedelta(" ++ ", ".intercalate parts ++ ")"

/-- A checked offset from UTC, in seconds: strictly within a day either way. -/
def checkOffset (seconds : Int) : Except Fault Int :=
  if -86400 < seconds && seconds < 86400 then pure seconds
  else throw (.invalid ("offset must be a timedelta strictly between -timedelta(hours=24) " ++
    s!"and timedelta(hours=24), not {durationLiteral seconds}."))

namespace Date

def isoText (d : Date) : String := s!"{padded 4 d.year}-{padded 2 d.month}-{padded 2 d.day}"

def literal (d : Date) : String := s!"datetime.date({d.year}, {d.month}, {d.day})"

end Date

namespace Moment

/-- A checked moment: the date fields, then hour, minute, second and microsecond. -/
def make (date : Date) (hour minute second micro : Nat) (offset : Option Int) :
    Except Fault Moment := do
  let date ← Date.make date.year date.month date.day
  if 23 < hour then throw (.invalid "hour must be in 0..23")
  if 59 < minute then throw (.invalid "minute must be in 0..59")
  if 59 < second then throw (.invalid "second must be in 0..59")
  if 999999 < micro then throw (.invalid "microsecond must be in 0..999999")
  pure ⟨date, hour, minute, second, micro, offset⟩

/-- The instant of a moment in microseconds from 0001-01-01, read at UTC by its offset. -/
def instant (m : Moment) : Int :=
  let local_ : Int := (((m.date.ordinal * 24 + m.hour) * 60 + m.minute) * 60 + m.second) *
    1000000 + m.micro
  local_ - (m.offset.getD 0) * 1000000

/-- Equality of moments: the same instant for two moments with offsets, the same fields for
two without; a moment with an offset never equals one without. -/
def same (a b : Moment) : Bool :=
  match a.offset, b.offset with
  | some _, some _ => a.instant == b.instant
  | none, none => a == b
  | _, _ => false

/-- The ISO text of an offset: sign, hours and minutes, and seconds only when not zero. -/
def offsetText (seconds : Int) : String :=
  let sign := if seconds < 0 then "-" else "+"
  let n := seconds.natAbs
  let base := s!"{sign}{padded 2 (n / 3600)}:{padded 2 (n / 60 % 60)}"
  if n % 60 == 0 then base else base ++ s!":{padded 2 (n % 60)}"

/-- The ISO text of a moment, date and time apart by a space. -/
def isoText (m : Moment) : String :=
  let time := s!"{padded 2 m.hour}:{padded 2 m.minute}:{padded 2 m.second}"
  let frac := if m.micro == 0 then "" else "." ++ padded 6 m.micro
  let off := match m.offset with
    | some s => offsetText s
    | none => ""
  m.date.isoText ++ " " ++ time ++ frac ++ off

/-- The constructor form of a moment: seconds and microseconds only when needed, and the
offset as a time zone. -/
def literal (m : Moment) : String :=
  let d := m.date
  let fields := [d.year, d.month, d.day, m.hour, m.minute] ++
    (if m.micro != 0 then [m.second, m.micro] else if m.second != 0 then [m.second] else [])
  let zone := match m.offset with
    | none => ""
    | some 0 => ", tzinfo=datetime.timezone.utc"
    | some s => s!", tzinfo=datetime.timezone({durationLiteral s})"
  "datetime.datetime(" ++ ", ".intercalate (fields.map toString) ++ zone ++ ")"

end Moment

end Arbitrage
