import Arbitrage.Data.Value
import Arbitrage.Data.Order
import Arbitrage.Data.Text
import Arbitrage.Decimal.Read
import Arbitrage.Decimal.Shortest
import Arbitrage.Text.Quoted
import Arbitrage.Text.Codes
import Std.Data.HashMap

namespace Arbitrage.Json

/-- How a writer spells doubles that JSON has no number for, and whether it escapes every
character outside printable ASCII. -/
structure Style where
  nonFinite : String → String
  ascii : Bool := false

/-- The escape of one character code as `\u` and four hexadecimal digits; a code above the
basic plane becomes its two surrogate halves. -/
def unicodeEscape (n : Nat) : String :=
  if n < 0x10000 then "\\u" ++ Text.hexDigits n 4
  else
    let m := n - 0x10000
    "\\u" ++ Text.hexDigits (0xD800 + m / 0x400) 4 ++ "\\u" ++ Text.hexDigits (0xDC00 + m % 0x400) 4

/-- Escapes a text for a JSON string literal, code by code: the quote, the backslash, the control
characters and the surrogates always, and with `ascii` every code outside printable ASCII. -/
def quote (ascii : Bool) (s : String) : String :=
  "\"" ++ String.join ((Text.codes s).map fun n =>
    if n == 0x22 then "\\\"" else if n == 0x5C then "\\\\" else if n == 10 then "\\n"
    else if n == 13 then "\\r" else if n == 9 then "\\t"
    else if n == 8 then "\\b" else if n == 12 then "\\f"
    else if n < 0x20 || (ascii && n > 0x7E) || Text.isSurrogate n then unicodeEscape n
    else (Char.ofNat n).toString) ++ "\""

/-- The text of a mapping key: texts as they are, booleans and null in their JSON spelling,
anything else in its plain text. -/
def keyText : Value → String
  | .str s => s
  | .bool b => if b then "true" else "false"
  | .null => "null"
  | .int i => toString i
  | .float x => Decimal.shortest x
  | v => v.text

def nonFiniteWord (x : Float) : String :=
  if x.isNaN then "nan" else if x < 0 then "-inf" else "inf"

/-- The object that stands for a value of a kind JSON has no form for. -/
def kindObject (st : Style) (kind : String) : String :=
  "\x7b" ++ quote st.ascii "repr_type" ++ ": " ++ quote st.ascii kind ++ "\x7d"

/-- The JSON text of a value that holds no other values; a container writes as nothing here. -/
def writeAtom (st : Style) : Value → String
  | .null => "null"
  | .bool b => if b then "true" else "false"
  | .int i => toString i
  | .float x => if x.isNaN || x.isInf then st.nonFinite (nonFiniteWord x) else Decimal.shortest x
  | .str s => quote st.ascii s
  | .date _ => kindObject st "date"
  | .moment _ => kindObject st "datetime"
  | .bytes _ => kindObject st "bytes"
  | .list _ | .dict _ | .set _ | .tuple _ => ""

def isNumber (v : Value) : Bool := v matches .int _ | .float _ | .bool _

/-- The members of a set in written order: ascending when all are numbers or all are texts, as
they are otherwise. -/
def setMembers (xs : List Value) : List Value :=
  if xs.all isNumber then
    xs.mergeSort fun a b => match Value.numCompare a b with
      | some (some .gt) => false
      | _ => true
  else if xs.all (· matches .str _) then xs.mergeSort fun a b => !Text.codeLess b.text a.text
  else xs

mutual
/-- Appends the JSON text of a value to `out`. Each piece goes onto the end of the text made so
far, so writing takes time in proportion to the length of the text. -/
def writeTo (st : Style) (out : String) : Value → String
  | .list xs | .tuple xs => writeListTo st (out ++ "[") xs ++ "]"
  | .dict kvs => writeEntriesTo st (out ++ "\x7b") kvs ++ "\x7d"
  | .set xs => out ++ "[" ++ ", ".intercalate ((setMembers xs).map (writeAtom st)) ++ "]"
  | v => out ++ writeAtom st v
def writeListTo (st : Style) (out : String) : List Value → String
  | [] => out
  | [x] => writeTo st out x
  | x :: xs => writeListTo st (writeTo st out x ++ ", ") xs
def writeEntriesTo (st : Style) (out : String) : List (Value × Value) → String
  | [] => out
  | [(k, v)] => writeTo st (out ++ quote st.ascii (keyText k) ++ ": ") v
  | (k, v) :: rest =>
    writeEntriesTo st (writeTo st (out ++ quote st.ascii (keyText k) ++ ": ") v ++ ", ") rest
end

def write (st : Style) (v : Value) : String := writeTo st "" v

/-- The JSON text of a value for a writer that cannot give the text of an integer beyond the
digit limit: such an integer anywhere in the value is the fault `intTextTooLong`. -/
def writeChecked (st : Style) (v : Value) : Except Fault String :=
  if v.hasLongInt then throw .intTextTooLong else pure (write st v)

abbrev ReadM := StateT (List Char) (Except String)

def skipWs : ReadM Unit := modify fun cs =>
  cs.dropWhile fun c => c == ' ' || c == '\t' || c == '\n' || c == '\r'

def expect (c : Char) : ReadM Unit := do
  match ← get with
  | d :: rest => if c == d then set rest else throw s!"expected {c}"
  | [] => throw s!"expected {c}"

/-- Reads the body of a string literal after its opening quote. `fuel` bounds the characters
read; a bound above the number of characters left is never reached. -/
def readString (fuel : Nat) : ReadM String := do
  let mut out : String := ""
  for _ in [0:fuel] do
    match ← get with
    | '"' :: rest =>
      set rest
      return out
    | '\\' :: e :: rest =>
      set rest
      match e with
      | 'n' => out := out.push '\n'
      | 't' => out := out.push '\t'
      | 'r' => out := out.push '\r'
      | 'b' => out := out.push '\x08'
      | 'f' => out := out.push '\x0c'
      | '/' => out := out.push '/'
      | '\\' => out := out.push '\\'
      | '"' => out := out.push '"'
      | 'u' =>
        let hex := rest.take 4
        set (rest.drop 4)
        let code := hex.foldl (fun n c =>
          16 * n + (if c.isDigit then c.toNat - 48 else (c.toLower.toNat - 87))) 0
        let lowOf (cs : List Char) : Option Nat :=
          match cs with
          | '\\' :: 'u' :: more =>
            let low := (more.take 4).foldl (fun n c =>
              16 * n + (if c.isDigit then c.toNat - 48 else (c.toLower.toNat - 87))) 0
            if 0xDC00 ≤ low && low < 0xE000 then some low else none
          | _ => none
        let after ← get
        match (if 0xD800 ≤ code && code < 0xDC00 then lowOf after else none) with
        | some low =>
          modify (·.drop 6)
          out := Text.pushCode out (0x10000 + (code - 0xD800) * 0x400 + (low - 0xDC00))
        | none => out := Text.pushCode out code
      | c => out := out.push c
    | c :: rest =>
      set rest
      out := Text.pushCode out c.toNat
    | [] => throw "unterminated string"
  throw "unterminated string"

/-- Reads a number: an integer unless a point or an exponent is written. -/
def readNumber : ReadM Value := do
  let cs ← get
  let body := cs.takeWhile fun c => c.isDigit || c == '-' || c == '+' || c == '.' || c == 'e' || c == 'E'
  set (cs.drop body.length)
  let text := String.ofList body
  if body.any (fun c => c == '.' || c == 'e' || c == 'E') then
    match Decimal.readDouble? text with
    | some x => pure (.float x)
    | none => throw "bad number"
  else
    match Decimal.readInt? text with
    | some i => pure (.int i)
    | none => throw "bad number"

/-- Reads a value. `fuel` bounds the nesting depth, and also the characters of a string and the
members of a container, each of which takes at least one character: from a bound above the
number of characters left, the bound for a nested value stays above the number left there. A
later entry of an object for a key already there replaces its value in its place. -/
def readValue : Nat → ReadM Value
  | 0 => throw "too deep"
  | fuel + 1 => do
    skipWs
    match ← get with
    | '{' :: rest =>
      set rest
      skipWs
      let mut entries : Array (String × Value) := #[]
      let mut places : Std.HashMap String Nat := {}
      if (← get).head? == some '}' then
        expect '}'
        return .dict []
      for _ in [0:fuel] do
        skipWs
        expect '"'
        let k ← readString fuel
        skipWs
        expect ':'
        let v ← readValue fuel
        match places.get? k with
        | some p => entries := entries.modify p fun e => (e.1, v)
        | none =>
          places := places.insert k entries.size
          entries := entries.push (k, v)
        skipWs
        match ← get with
        | ',' :: more => set more
        | '}' :: more =>
          set more
          return .dict (entries.toList.map fun (k, v) => (.str k, v))
        | _ => throw "expected , or \x7d"
      throw "unterminated object"
    | '[' :: rest =>
      set rest
      skipWs
      let mut out : Array Value := #[]
      if (← get).head? == some ']' then
        expect ']'
        return .list []
      for _ in [0:fuel] do
        let v ← readValue fuel
        out := out.push v
        skipWs
        match ← get with
        | ',' :: more => set more
        | ']' :: more =>
          set more
          return .list out.toList
        | _ => throw "expected , or ]"
      throw "unterminated array"
    | '"' :: rest =>
      set rest
      return .str (← readString fuel)
    | 't' :: 'r' :: 'u' :: 'e' :: rest =>
      set rest
      return .bool true
    | 'f' :: 'a' :: 'l' :: 's' :: 'e' :: rest =>
      set rest
      return .bool false
    | 'n' :: 'u' :: 'l' :: 'l' :: rest =>
      set rest
      return .null
    | _ => readNumber

/-- Reads a JSON text holding one value. -/
def read (text : String) : Except String Value := do
  let cs := text.toList
  let (v, rest) ← (readValue (cs.length + 2)).run cs
  if (rest.dropWhile fun c => c == ' ' || c == '\t' || c == '\n' || c == '\r').isEmpty then pure v
  else throw "trailing text"

end Arbitrage.Json
