import Arbitrage.Yaml.Node
import Arbitrage.Data.Value
import Arbitrage.Data.Text
import Arbitrage.Decimal.Read
import Arbitrage.Text.Case
import Arbitrage.Text.Base64

namespace Arbitrage.Yaml

open Arbitrage.Decimal

/-- The boolean words in lower case and their values. -/
def boolValue? (word : String) : Option Bool :=
  match word with
  | "yes" | "true" | "on" => some true
  | "no" | "false" | "off" => some false
  | _ => none

/-- Splits a leading sign off a scalar's text: `-1` for a minus, `1` otherwise. -/
def splitScalarSign (cs : List Char) : Int × List Char :=
  match cs with
  | '-' :: rest => (-1, rest)
  | '+' :: rest => (1, rest)
  | _ => (1, cs)

/-- An integer in a base, read as the integer conversion reads text, or its fault. -/
def intInBase (base : Nat) (text : String) : Except Fault Int :=
  match readIntLimited base text with
  | .ok i => pure i
  | .error (some n) => throw (.intDigitsTooMany n)
  | .error none => throw (.badIntText base (Text.quote text))

/-- The integer of an integer-tagged scalar: underscores dropped, then binary after `0b`,
hexadecimal after `0x`, octal after a leading zero, base 60 with colons, decimal otherwise. -/
def scalarInt (text : String) : Except Fault Int := do
  let cs := text.toList.filter (· != '_')
  if cs.isEmpty then throw .textIndexOutOfRange
  let (sign, body) := splitScalarSign cs
  let v := String.ofList body
  if v == "0" then return 0
  match body with
  | '0' :: 'b' :: rest => return sign * (← intInBase 2 (String.ofList rest))
  | '0' :: 'x' :: rest => return sign * (← intInBase 16 (String.ofList rest))
  | '0' :: _ => return sign * (← intInBase 8 v)
  | [] => throw .textIndexOutOfRange
  | _ =>
    if body.contains ':' then
      let parts ← (v.splitOn ":").mapM (intInBase 10)
      let total := parts.reverse.foldl (fun (acc : Int × Int) d => (acc.1 + d * acc.2, acc.2 * 60))
        (0, 1)
      return sign * total.1
    else return sign * (← intInBase 10 v)

/-- A double read as the float conversion reads text, or its fault. -/
def doubleOfText (text : String) : Except Fault Float :=
  match readDouble? text with
  | some x => pure x
  | none => throw (.badDoubleText (Text.quote text))

/-- Whether a float-tagged scalar is the word `.nan`, in any case, with underscores and a sign
ignored. -/
def isNanText (text : String) : Bool :=
  let cs := (Text.lower (String.ofList (text.toList.filter (· != '_')))).toList
  String.ofList (splitScalarSign cs).2 == ".nan"

/-- The double of a float-tagged scalar: underscores dropped and letters lowered, then `.inf`,
`.nan`, base 60 with colons, or a decimal. In base 60 each place value is an exact integer
turned into a double as its digit is added, so a place beyond the double range is the fault
`intTooLarge`. -/
def scalarFloat (text : String) : Except Fault Float := do
  let cs := (Text.lower (String.ofList (text.toList.filter (· != '_')))).toList
  if cs.isEmpty then throw .textIndexOutOfRange
  let (sign, body) := splitScalarSign cs
  let v := String.ofList body
  let signed (x : Float) : Float := if sign < 0 then -x else x
  if v == ".inf" then return signed (1.0 / 0.0)
  else if v == ".nan" then return (0.0 / 0.0)
  else if body.contains ':' then
    let parts ← (v.splitOn ":").mapM doubleOfText
    let mut total := 0.0
    let mut base : Nat := 1
    for d in parts.reverse do
      let b := Binary64.ofInt base
      if b.isInf then throw .intTooLarge
      total := total + d * b
      base := base * 60
    return signed total
  else return signed (← doubleOfText v)

/-- The bytes of a binary scalar: base64 in ASCII characters. -/
def scalarBytes (text : String) : Except Fault (List UInt8) :=
  if !text.toList.all (·.toNat < 128) then throw .malformed
  else match Text.base64Decode text with
    | some b => pure b
    | none => throw .malformed

/-- The value of a scalar with a standard tag; a tag without a scalar value is the fault
`malformed`. -/
def scalarValue (tag text : String) : Except Fault Value :=
  if tag == stdTag "null" then pure .null
  else if tag == stdTag "str" then pure (.str text)
  else if tag == stdTag "bool" then
    let word := Text.lower text
    match boolValue? word with
    | some b => pure (.bool b)
    | none => throw (.noKey (Value.str word).literal)
  else if tag == stdTag "int" then return .int (← scalarInt text)
  else if tag == stdTag "float" then return .float (← scalarFloat text)
  else if tag == stdTag "binary" then return .bytes (← scalarBytes text)
  else if tag == stdTag "timestamp" then
    return match ← Stamp.value text with
      | .inl d => .date d
      | .inr m => .moment m
  else throw .malformed

end Arbitrage.Yaml
