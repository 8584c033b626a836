import Arbitrage.Number.Binary64
import Arbitrage.Text.Blank
import Arbitrage.Text.Digit

namespace Arbitrage.Decimal

open Arbitrage.Text

/-- Reads a run of digits in which single underscores may separate digits; answers the digits
and the rest of the text. An empty run reads as no digits. -/
def readDigitRun : List Char → List Char → Option (List Char × List Char)
  | acc, c :: rest =>
    if c.isDigit then readDigitRun (c :: acc) rest
    else if c == '_' then
      match acc, rest with
      | _ :: _, d :: rest' => if d.isDigit then readDigitRun (d :: acc) rest' else none
      | _, _ => none
    else some (acc.reverse, c :: rest)
  | acc, [] => some (acc.reverse, [])

def digitValue (ds : List Char) : Nat :=
  ds.foldl (fun n c => 10 * n + (c.toNat - '0'.toNat)) 0

def splitSign : List Char → Bool × List Char
  | '-' :: rest => (true, rest)
  | '+' :: rest => (false, rest)
  | cs => (false, cs)

/-- The nearest double to `±mantissa · 10^exponent`. Values beyond the double range become an
infinity or a signed zero before any large power is formed. -/
def nearestDouble (neg : Bool) (mantissa : Nat) (exponent : Int) : Float :=
  if mantissa = 0 then Binary64.ofRatio neg 0 1
  else
    let len : Int := (Nat.toDigits 10 mantissa).length
    if exponent + len > 310 then Binary64.compose neg (Nat.pow 2 53) 1000
    else if exponent + len < -330 then Binary64.ofRatio neg 0 1
    else if 0 ≤ exponent then Binary64.ofRatio neg (mantissa * Nat.pow 10 (exponent.toNat)) 1
    else Binary64.ofRatio neg mantissa (Nat.pow 10 (-exponent).toNat)

/-- Reads the unsigned part of a decimal number: digits, an optional point with digits, an
optional exponent; at least one digit in the mantissa. -/
def readUnsignedDecimal (cs : List Char) : Option (Nat × Int) := do
  let (whole, rest) ← readDigitRun [] cs
  let (frac, rest) ← match rest with
    | '.' :: rest' => readDigitRun [] rest'
    | _ => some ([], rest)
  if whole.isEmpty && frac.isEmpty then none
  let (exp, rest) ← match rest with
    | c :: rest' =>
      if c == 'e' || c == 'E' then
        let (eneg, rest'') := splitSign rest'
        let (ed, rest''') ← readDigitRun [] rest''
        if ed.isEmpty then none
        let ev : Int := digitValue ed
        some (if eneg then -ev else ev, rest''')
      else some (0, c :: rest')
    | [] => some (0, [])
  if !rest.isEmpty then none
  some (digitValue (whole ++ frac), exp - frac.length)

/-- The ASCII character a character of a number is read as: below DEL itself, a space for a
blank and the ASCII digit of a decimal digit of any script; `none` for any other. -/
def numberChar? (c : Char) : Option Char :=
  if c.toNat < 127 then some c
  else if isBlank c then some ' '
  else (decimalValue? c).map fun d => Char.ofNat (48 + d)

/-- The ASCII text a number is read from: characters from DEL up become a space (blanks) or an
ASCII digit (decimal digits of any script); `none` when another such character is present. -/
def asciiNumberText (s : String) : Option (List Char) := s.toList.mapM numberChar?

/-- The ASCII blanks: space, tab, line feed, vertical tab, form feed and carriage return. -/
def isAsciiSpace (c : Char) : Bool := c == ' ' || (9 ≤ c.toNat && c.toNat ≤ 13)

def stripAsciiSpace (cs : List Char) : List Char :=
  ((cs.dropWhile isAsciiSpace).reverse.dropWhile isAsciiSpace).reverse

def lowerAscii (cs : List Char) : List Char := cs.map Char.toLower

/-- Reads a double from the characters of a number, or `none` if they are no number. -/
def readDoubleChars? (cs : List Char) : Option Float :=
  let (neg, body) := splitSign (stripAsciiSpace cs)
  let word := String.ofList (lowerAscii body)
  if word == "inf" || word == "infinity" then
    some (Binary64.compose neg (Nat.pow 2 53) 1000)
  else if word == "nan" then some (0.0 / 0.0)
  else
    match readUnsignedDecimal body with
    | some (m, e) => some (nearestDouble neg m e)
    | none => none

def readDouble? (s : String) : Option Float := asciiNumberText s >>= readDoubleChars?

/-- The value of a digit in bases up to 36: digits, then letters in either case. -/
def digitIn (base : Nat) (c : Char) : Option Nat :=
  let d := if c.isDigit then some (c.toNat - '0'.toNat)
    else if 'a' ≤ c && c ≤ 'z' then some (c.toNat - 'a'.toNat + 10)
    else if 'A' ≤ c && c ≤ 'Z' then some (c.toNat - 'A'.toNat + 10)
    else none
  d.bind fun v => if v < base then some v else none

/-- Underscores stand only between two digits: not first, not last, never two in a row. -/
def underscoresBetween (cs : List Char) : Bool :=
  cs.head? != some '_' && cs.getLast? != some '_' &&
    !((cs.zip cs.tail).any fun (a, b) => a == '_' && b == '_')

/-- Drops the prefix of a base from digits: `0b`, `0o` or `0x` (either case) for bases 2, 8
and 16, and then one underscore. -/
def dropBasePrefix (base : Nat) (cs : List Char) : List Char :=
  let letter := if base == 2 then 'b' else if base == 8 then 'o' else if base == 16 then 'x'
    else ' '
  match cs with
  | '0' :: c :: rest =>
    if letter != ' ' && c.toLower == letter then
      match rest with
      | '_' :: rest' => rest'
      | _ => rest
    else cs
  | _ => cs

/-- Reads an integer in a base from the characters of a number: blanks around, an optional
sign, the base's prefix, digits of the base with single underscores between them. -/
def readIntChars? (base : Nat) (cs : List Char) : Option Int :=
  let (neg, body) := splitSign (stripAsciiSpace cs)
  let body := dropBasePrefix base body
  let digits := body.filter (· != '_')
  if body.isEmpty || !underscoresBetween body then none
  else
    match digits.mapM (digitIn base) with
    | some ds =>
      let v : Nat := ds.foldl (fun n d => base * n + d) 0
      some (if neg then -(v : Int) else v)
    | none => none

def readIntBase? (base : Nat) (s : String) : Option Int :=
  asciiNumberText s >>= readIntChars? base

/-- Reads a decimal integer from text: blanks around, an optional sign, digits with single
underscores between them. -/
def readInt? (s : String) : Option Int := readIntBase? 10 s

/-- The most digits an integer text in a base that is no power of two may have. -/
def maxIntDigits : Nat := 4300

/-- The digits of the run an integer is read from: after blanks, sign and prefix, the digits of
the base and underscores up to the first other character. `none` when the run starts or ends
with an underscore or holds two in a row, which makes the text no number. -/
def digitRun? (base : Nat) (body : List Char) : Option Nat :=
  let run := body.takeWhile fun c => c == '_' || (digitIn base c).isSome
  if underscoresBetween run then some (run.filter (· != '_')).length else none

/-- The length of an integer text's run of digits when it is too long: more than
`maxIntDigits` digits in a base that is no power of two. -/
def overlongRun? (base : Nat) (cs : List Char) : Option Nat :=
  match digitRun? base (dropBasePrefix base (splitSign (cs.dropWhile isAsciiSpace)).2) with
  | some n => if maxIntDigits < n && base &&& (base - 1) != 0 then some n else none
  | none => none

/-- Reads an integer in a base from text, or says why it cannot: `.error none` when the text is
no number, and `.error (some n)` when its run of digits is `n` long, too long. The length is
checked before the rest of the text, so a long run followed by other characters is still
refused for its length; a character that is neither blank nor a digit of any script ends the
run. -/
def readIntLimited (base : Nat) (s : String) : Except (Option Nat) Int :=
  match overlongRun? base (s.toList.map fun c => (numberChar? c).getD '?'), readIntBase? base s with
  | some n, _ => .error (some n)
  | none, some i => .ok i
  | none, none => .error none

end Arbitrage.Decimal
