import Arbitrage.Data.Calendar

namespace Arbitrage.Yaml

/-- The zone of a timestamp: UTC, or a signed offset in hours and optional minutes. -/
inductive StampZone where
  | utc
  | offset (negative : Bool) (hours : List Char) (minutes : Option (List Char))

/-- The time of a timestamp, as written: hour, minutes, seconds, the fraction's digits after a
point, and the zone. -/
structure StampTime where
  hour : List Char
  minute : List Char
  second : List Char
  fraction : Option (List Char)
  zone : Option StampZone

/-- A timestamp as written: the digits of year, month and day, and the time if any. -/
structure Stamp where
  year : List Char
  month : List Char
  day : List Char
  time : Option StampTime

def isAsciiDigit (c : Char) : Bool := '0' ≤ c && c ≤ '9'

def digitsUpTo (n : Nat) (cs : List Char) : List Char × List Char :=
  let ds := (cs.takeWhile isAsciiDigit).take n
  (ds, cs.drop ds.length)

def someDigits (n : Nat) (cs : List Char) : Option (List Char × List Char) :=
  let (ds, rest) := digitsUpTo n cs
  if ds.isEmpty then none else some (ds, rest)

def exactDigits (n : Nat) (cs : List Char) : Option (List Char × List Char) :=
  let (ds, rest) := digitsUpTo n cs
  if ds.length == n then some (ds, rest) else none

def expectChar (c : Char) : List Char → Option (List Char)
  | d :: rest => if c == d then some rest else none
  | [] => none

/-- The end of a timestamp text: nothing, or a single final line feed. -/
def atTextEnd (cs : List Char) : Bool := cs.isEmpty || cs == ['\n']

/-- Whether a character is a blank inside a timestamp: space or tab. -/
def isStampBlank (c : Char) : Bool := c == ' ' || c == '\t'

/-- A zone: `Z`, or a sign, one or two digits of hours and optionally a colon and two digits of
minutes; the rest. -/
def zone? (cs : List Char) : Option (StampZone × List Char) :=
  match cs with
  | 'Z' :: rest => some (.utc, rest)
  | s :: rest =>
    if s == '-' || s == '+' then do
      let (h, rest) ← someDigits 2 rest
      match rest with
      | ':' :: more =>
        match exactDigits 2 more with
        | some (m, rest') => some (.offset (s == '-') h (some m), rest')
        | none => some (.offset (s == '-') h none, rest)
      | _ => some (.offset (s == '-') h none, rest)
    else none
  | [] => none

/-- The rest after the separator of date and time: `T`, `t` or blanks. -/
def afterSeparator? : List Char → Option (List Char)
  | c :: rest =>
    if c == 'T' || c == 't' then some rest
    else if isStampBlank c then some (rest.dropWhile isStampBlank)
    else none
  | [] => none

/-- The time part of a timestamp after its date, up to the end of the text. -/
def time? (cs : List Char) : Option StampTime := do
  let cs ← afterSeparator? cs
  let (h, cs) ← someDigits 2 cs
  let cs ← expectChar ':' cs
  let (m, cs) ← exactDigits 2 cs
  let cs ← expectChar ':' cs
  let (s, cs) ← exactDigits 2 cs
  let (fraction, cs) := match cs with
    | '.' :: rest => (some (rest.takeWhile isAsciiDigit), rest.dropWhile isAsciiDigit)
    | _ => (none, cs)
  match zone? (cs.dropWhile isStampBlank) with
  | some (z, rest) =>
    if atTextEnd rest then some ⟨h, m, s, fraction, some z⟩
    else if atTextEnd cs then some ⟨h, m, s, fraction, none⟩ else none
  | none => if atTextEnd cs then some ⟨h, m, s, fraction, none⟩ else none

/-- A timestamp text read into its parts, or `none` when the text is no timestamp. -/
def Stamp.parse? (text : String) : Option Stamp := do
  let cs := text.toList
  let (y, cs) ← exactDigits 4 cs
  let cs ← expectChar '-' cs
  let (m, cs) ← someDigits 2 cs
  let cs ← expectChar '-' cs
  let (d, cs) ← someDigits 2 cs
  if atTextEnd cs then return ⟨y, m, d, none⟩
  return ⟨y, m, d, some (← time? cs)⟩

/-- Whether a plain scalar's text is a timestamp: a time, or month and day of two digits. -/
def isTimestampText (text : String) : Bool :=
  match Stamp.parse? text with
  | some st => st.time.isSome || (st.month.length == 2 && st.day.length == 2)
  | none => false

def digitsValue (ds : List Char) : Nat :=
  ds.foldl (fun n c => 10 * n + (c.toNat - '0'.toNat)) 0

/-- The date or moment a timestamp text stands for; a text that is no timestamp is the fault of
asking nothing for its groups, and fields out of range are the calendar's faults, the zone's
offset first. -/
def Stamp.value (text : String) : Except Fault (Sum Date Moment) := do
  let some st := Stamp.parse? text
    | throw (.noAttribute "NoneType" "groupdict")
  let date : Date := ⟨digitsValue st.year, digitsValue st.month, digitsValue st.day⟩
  match st.time with
  | none => return .inl (← Date.make date.year date.month date.day)
  | some t =>
    let micro := match t.fraction with
      | some f@(_ :: _) => digitsValue (f.take 6 ++ List.replicate (6 - f.length) '0')
      | _ => 0
    let offset ← match t.zone with
      | none => pure none
      | some .utc => pure (some 0)
      | some (.offset negative hours minutes) =>
        let size : Int := digitsValue hours * 3600 + digitsValue (minutes.getD []) * 60
        some <$> checkOffset (if negative then -size else size)
    return .inr (← Moment.make date (digitsValue t.hour) (digitsValue t.minute)
      (digitsValue t.second) micro offset)

end Arbitrage.Yaml
