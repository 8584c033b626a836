import Arbitrage.Text.Printable
import Arbitrage.Text.Codes

namespace Arbitrage.Text

/-- Codes written as escapes inside quotes: those of characters that are not printable, and the
surrogates. -/
def isUnprintable (n : Nat) : Bool := !isPrintableCode n

/-- Lower-case hexadecimal digits of `n`, left-padded with zeros to `width`. -/
def hexDigits (n width : Nat) : String :=
  let ds := Nat.toDigits 16 n
  String.ofList (List.replicate (width - ds.length) '0' ++ ds)

/-- The hexadecimal escape of a code point: `\x`, `\u` or `\U` with two, four or eight digits. -/
def hexEscape (n : Nat) : String :=
  if n < 0x100 then "\\x" ++ hexDigits n 2
  else if n < 0x10000 then "\\u" ++ hexDigits n 4
  else "\\U" ++ hexDigits n 8

/-- The escaped form of one code inside the quote `q`; `ascii` escapes every code beyond ASCII
as well. -/
def escapeCode (ascii : Bool) (q : Char) (n : Nat) : String :=
  if n == q.toNat || n == '\\'.toNat then String.ofList ['\\', Char.ofNat n]
  else if n == '\t'.toNat then "\\t"
  else if n == '\n'.toNat then "\\n"
  else if n == '\r'.toNat then "\\r"
  else if isUnprintable n || (ascii && 0x7F ≤ n) then hexEscape n
  else (Char.ofNat n).toString

/-- The quote character for a text: the single quote, unless the text holds a single quote and
no double quote. -/
def quoteFor (has : Char → Bool) : Char := if has '\'' && !has '"' then '"' else '\''

def quote (s : String) : String :=
  let q := quoteFor fun c => s.contains c
  q.toString ++ String.join ((codes s).map (escapeCode false q)) ++ q.toString

/-- Text between quotes that reads back as `s`, in ASCII characters only. -/
def quoteAscii (s : String) : String :=
  let q := quoteFor fun c => s.contains c
  q.toString ++ String.join ((codes s).map (escapeCode true q)) ++ q.toString

/-- A text with every code beyond ASCII written as its hexadecimal escape. -/
def escapeNonAscii (s : String) : String :=
  String.join ((codes s).map fun n => if n < 0x80 then (Char.ofNat n).toString else hexEscape n)

/-- A byte string between quotes after a `b`, bytes outside printable ASCII escaped. -/
def quoteBytes (b : List UInt8) : String :=
  let q := quoteFor fun c => b.contains c.toNat.toUInt8
  let one (x : UInt8) : String :=
    let c := Char.ofNat x.toNat
    if c == q || c == '\\' then String.ofList ['\\', c]
    else if c == '\t' then "\\t"
    else if c == '\n' then "\\n"
    else if c == '\r' then "\\r"
    else if x < 0x20 || 0x7F ≤ x then "\\x" ++ hexDigits x.toNat 2
    else c.toString
  "b" ++ q.toString ++ String.join (b.map one) ++ q.toString

end Arbitrage.Text
