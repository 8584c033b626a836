import Arbitrage.Data.Text
import Arbitrage.Data.Coerce
import Arbitrage.Data.Order
import Arbitrage.Decimal.Fixed

/-!
Printf-style templates: a text with `%` conversions filled from a list of values, or from one
mapping by key.
-/

namespace Arbitrage.Printf

/-- Where conversions take their values: a list in order, or a single value that may be used
once; `mapping` is set when the values came as one mapping. -/
structure Source where
  rest : List Value
  single : Option Value
  mapping : Option (List (Value × Value))

/-- One conversion's flags, width and precision. -/
structure Spec where
  left : Bool := false
  plus : Bool := false
  space : Bool := false
  zero : Bool := false
  alt : Bool := false
  width : Nat := 0
  precision : Option Nat := none

/-- The next value of a source. -/
def Source.next (s : Source) : Except Fault (Value × Source) :=
  match s.single with
  | some v => pure (v, { s with single := none, rest := [] })
  | none => match s.rest with
    | v :: rest => pure (v, { s with rest })
    | [] => throw (.badCall "not enough arguments for format string")

/-- Pads `body` (after its sign and prefix) to `width` codes. -/
def pad (spec : Spec) (numeric : Bool) (sign body : String) : String :=
  let len := Text.codeLength sign + Text.codeLength body
  if spec.width ≤ len then sign ++ body
  else if spec.left then sign ++ body ++ "".pushn ' ' (spec.width - len)
  else if numeric && spec.zero then sign ++ "".pushn '0' (spec.width - len) ++ body
  else "".pushn ' ' (spec.width - len) ++ sign ++ body

def signOf (spec : Spec) (neg : Bool) : String :=
  if neg then "-" else if spec.plus then "+" else if spec.space then " " else ""

def digitsIn (base n : Nat) : String := String.ofList (Nat.toDigits base n)

/-- An integer conversion. -/
def integer (spec : Spec) (conv : Char) (i : Int) : String :=
  let base := if conv == 'o' then 8 else if conv == 'x' || conv == 'X' then 16 else 10
  let ds := digitsIn base i.natAbs
  let ds := match spec.precision with
    | some p => if ds.length < p then "".pushn '0' (p - ds.length) ++ ds else ds
    | none => ds
  let ds := if conv == 'X' then ds.toUpper else ds
  let prefixText := if spec.alt then
      (if conv == 'o' then "0o" else if conv == 'x' then "0x" else if conv == 'X' then "0X" else "")
    else ""
  let sign := signOf spec (i < 0)
  if !spec.left && spec.zero && sign.length + prefixText.length + ds.length < spec.width then
    sign ++ prefixText ++ "".pushn '0' (spec.width - sign.length - prefixText.length - ds.length) ++ ds
  else pad spec false (sign ++ prefixText) ds

/-- Puts a point into a number's text when `on` and it has none: before the exponent, or at
the end. -/
def pointIf (on : Bool) (t : String) : String :=
  if !on || t.contains '.' then t
  else match t.splitOn "e" with
    | [m, ex] => m ++ ".e" ++ ex
    | _ => t ++ "."

/-- General text with `precision` significant digits that keeps its trailing zeros. -/
def generalKeepingZeros (num den precision : Nat) : String :=
  let p := if precision = 0 then 1 else precision
  if num = 0 then Decimal.fixedOfRatio false 0 1 (p - 1)
  else
    let (_, k) := Decimal.significant num den p
    if -4 ≤ k && k < p then Decimal.fixedOfRatio false num den (p - 1 - k).toNat
    else Decimal.scientificOfRatio false num den (p - 1)

/-- A double conversion. -/
def double (spec : Spec) (conv : Char) (x : Float) : String :=
  let p := spec.precision.getD 6
  let lower := conv.toLower
  let (neg, body) := match Binary64.shape x with
    | .nan => (false, "nan")
    | .infinite n => (n, "inf")
    | .finite n m e =>
      let (num, den) := if 0 ≤ e then (m * Nat.pow 2 (e.toNat), 1) else (m, Nat.pow 2 (-e).toNat)
      (n, if lower == 'f' then pointIf spec.alt (Decimal.fixedOfRatio false num den p)
        else if lower == 'e' then pointIf spec.alt (Decimal.scientificOfRatio false num den p)
        else if spec.alt then pointIf true (generalKeepingZeros num den p)
        else Decimal.generalOfRatio false num den p)
  let body := if conv.isUpper then body.toUpper else body
  pad spec true (signOf spec neg) body

/-- An integer for an integer conversion: doubles are cut toward zero. -/
def integerOf (conv : Char) (v : Value) : Except Fault Int :=
  match v with
  | .int i => pure i
  | .bool b => pure (if b then 1 else 0)
  | .float x =>
    if conv == 'o' || conv == 'x' || conv == 'X' then
      throw (.badCall s!"%{conv} format: an integer is required, not float")
    else Value.toInt (.float x)
  | v =>
    if conv == 'o' || conv == 'x' || conv == 'X' then
      throw (.badCall s!"%{conv} format: an integer is required, not {v.typeName}")
    else throw (.badCall s!"%{conv} format: a real number is required, not {v.typeName}")

/-- A double for a double conversion. -/
def doubleOf (v : Value) : Except Fault Float :=
  match v with
  | .float x => pure x
  | .int _ | .bool _ => Value.numToDouble v
  | v => throw (.badCall s!"must be real number, not {v.typeName}")

/-- A character for `%c`. -/
def charOf (v : Value) : Except Fault String :=
  match v with
  | .int i =>
    if i < 0 ∨ 0x110000 ≤ i then throw (.tooLarge "%c arg not in range(0x110000)")
    else pure (Text.ofCode i.toNat)
  | .bool b => pure (Char.ofNat (if b then 1 else 0)).toString
  | .str s => if Text.codeLength s == 1 then pure s else throw (.badCall "%c requires int or char")
  | _ => throw (.badCall "%c requires int or char")

def maxWidth : Nat := Nat.pow 2 63 - 1

def maxPrecision : Nat := Nat.pow 2 31 - 1

/-- The length from which a conversion's text is not built but only measured. -/
def maxLength : Nat := Nat.pow 2 28

/-- The length from which a conversion's text cannot be held in memory at all. -/
def memoryLimit : Nat := Nat.pow 2 35

/-- Text being filled: built in full, or only measured when it grows too long to build. -/
inductive Filled where
  | text (s : String)
  | long (length : Nat)
  deriving Inhabited

def Filled.length : Filled → Nat
  | .text s => Text.codeLength s
  | .long n => n

def Filled.append : Filled → Filled → Filled
  | .text a, .text b => .text (a ++ b)
  | a, b => .long (a.length + b.length)

/-- The text of a conversion whose width or precision asks for `size` characters: measured
only from `maxLength` on, and the fault of running out of memory from `memoryLimit` on. -/
def sized (size : Nat) (build : Unit → String) : Except Fault Filled :=
  if memoryLimit ≤ size then throw .outOfMemory
  else if maxLength ≤ size then pure (.long size)
  else pure (.text (build ()))

/-- The most significant digits a double's exact decimal expansion can have: past this many,
general formatting without the `#` flag shows the same text. -/
def maxSignificant : Nat := 800

/-- The length a conversion's text needs before padding, as far as precision sets it. -/
def neededLength (spec : Spec) (conv : Char) : Nat :=
  let p := spec.precision.getD 0
  if conv == 's' || conv == 'r' || conv == 'a' || conv == 'c' then 0
  else if (conv == 'g' || conv == 'G') && !spec.alt then 0
  else p

/-- Applies the conversion letter of code `code` to a value. Base-10 texts of integers are
bounded in length, and the text a width or precision asks for is `sized`. -/
def convert (spec : Spec) (code : Nat) (index : Nat) (v : Value) : Except Fault Filled := do
  let conv := Char.ofNat code
  if conv == 's' || conv == 'r' || conv == 'a' then
    if v.hasLongInt then throw .intTextTooLong
    sized spec.width fun _ =>
      let t := if conv == 's' then v.text else if conv == 'r' then v.literal else v.asciiLiteral
      let t := match spec.precision with
        | some p => Text.takeCodes p t
        | none => t
      pad spec false "" t
  else if conv == 'd' || conv == 'i' || conv == 'u' || conv == 'o' || conv == 'x' || conv == 'X'
  then
    let i ← integerOf conv v
    if !(conv == 'o' || conv == 'x' || conv == 'X') && Value.isLongInt i then
      throw .intTextTooLong
    if maxPrecision - 3 < spec.precision.getD 0 then throw (.tooLarge "precision too large")
    sized (max spec.width (neededLength spec conv)) fun _ => integer spec conv i
  else if "eEfFgG".contains conv then
    let x ← doubleOf v
    sized (max spec.width (neededLength spec conv)) fun _ =>
      let spec := if (conv == 'g' || conv == 'G') && !spec.alt then
          { spec with precision := spec.precision.map (min maxSignificant) }
        else spec
      double spec conv x
  else if conv == 'c' then
    let t ← charOf v
    sized spec.width fun _ => pad spec false "" t
  else
    let shown := if 31 ≤ code && code ≤ 126 then conv else '?'
    throw (.invalid ("unsupported format character '" ++ shown.toString ++ "' (0x" ++
      digitsIn 16 code ++ s!") at index {index}"))

/-- Where the reading of a conversion stands: the code read last and its index in the template,
the codes after it, and whether the template ended when one more was needed. -/
structure Cursor where
  ch : Nat
  index : Nat
  rest : List Nat
  ended : Bool := false

/-- The character of the code read last; only ASCII characters steer the reading, and a
surrogate reads as the null character, which steers nothing. -/
def Cursor.char (c : Cursor) : Char := Char.ofNat c.ch

/-- Reads the next character; at the end of the template the cursor keeps its character and
is marked as ended. -/
def Cursor.step (c : Cursor) : Cursor :=
  match c.rest with
  | d :: rest => { c with ch := d, index := c.index + 1, rest }
  | [] => { c with ended := true }

def digitValue (c : Char) : Nat := c.toNat - '0'.toNat

/-- Reads the digits that follow a first one into `n`; a value above `limit` is the fault
`tooBig`. Stops at the first character that is no digit. -/
def readDigits (limit : Nat) (tooBig : Fault) (n : Nat) : Nat → Cursor → Except Fault (Nat × Cursor)
  | 0, c => pure (n, c)
  | fuel + 1, c =>
    let c := c.step
    if c.ended || !c.char.isDigit then pure (n, c)
    else if (limit - digitValue c.char) / 10 < n then throw tooBig
    else readDigits limit tooBig (n * 10 + digitValue c.char) fuel c

/-- The width or precision given by `*`: the next value, which must be an integer. -/
def starValue (src : Source) : Except Fault (Int × Source) := do
  let (v, src) ← src.next
  match v with
  | .int i => pure (i, src)
  | .bool b => pure (if b then 1 else 0, src)
  | _ => throw (.badCall "* wants int")

/-- The key of a `(key)` conversion, up to its matching parenthesis, and what follows it. -/
def readKey : Nat → List Nat → List Nat → Option (String × List Nat)
  | _, [], _ => none
  | depth, c :: cs, acc =>
    if c == ')'.toNat then
      if depth == 0 then some (Text.ofCodes acc.reverse, cs)
      else readKey (depth - 1) cs (c :: acc)
    else if c == '('.toNat then readKey (depth + 1) cs (c :: acc)
    else readKey depth cs (c :: acc)

/-- The codes after the `(` that opens a conversion's key, if one does. -/
def keyStart : List Nat → Option (List Nat)
  | c :: rest => if c == '('.toNat then some rest else none
  | [] => none

/-- Reads the flags of a conversion, one character at a time; stops at the first character
that is no flag, or at the end of the template. -/
def readFlags (spec : Spec) : Nat → Cursor → Spec × Cursor
  | 0, c => (spec, c)
  | fuel + 1, c =>
    let c := c.step
    if c.ended then (spec, c)
    else match c.char with
      | '-' => readFlags { spec with left := true } fuel c
      | '+' => readFlags { spec with plus := true } fuel c
      | ' ' => readFlags { spec with space := true } fuel c
      | '#' => readFlags { spec with alt := true } fuel c
      | '0' => readFlags { spec with zero := true } fuel c
      | _ => (spec, c)

/-- One conversion whose `%` stands at `index` and is followed by `cs`: its text, the source
left, and the rest of the template. The parts are read in order, each fault as soon as its
part is read: a key (which needs values given as a mapping, and a closing parenthesis), flags,
a width (digits up to `maxWidth`, or `*` taking an integer that fits 64 bits, negative for
left alignment), a precision (digits up to `maxPrecision`, or `*` taking an integer that fits
32 bits, negative for none), one length letter `h`, `l` or `L`; a template that ends before the
conversion letter is incomplete. Then the value is taken, and last the letter is checked. -/
def conversion (src : Source) (cs : List Nat) (index : Nat) :
    Except Fault (Filled × Source × List Nat) := do
  let mut src := src
  let mut c : Cursor := ⟨'%'.toNat, index, cs, false⟩
  if let some rest := keyStart cs then
    let some d := src.mapping | throw (.badCall "format requires a mapping")
    let some (key, after) := readKey 0 rest [] | throw (.invalid "incomplete format key")
    let some v := Value.lookup d (.str key) | throw (.noKey (Text.quote key))
    src := { src with single := some v, rest := [] }
    c := ⟨')'.toNat, index + (cs.length - after.length), after, false⟩
  let fuel := c.rest.length + 1
  let (spec, c') := readFlags {} fuel c
  let mut spec := spec
  c := c'
  if c.char == '*' && !c.ended then
    let (w, src') ← starValue src
    src := src'
    if w < -(Nat.pow 2 63 : Int) || (Nat.pow 2 63 : Int) ≤ w then
      throw (.tooLarge "Python int too large to convert to C ssize_t")
    -- The most negative width has no positive counterpart and pads nothing.
    let width := if w == -(Nat.pow 2 63 : Int) then 0 else w.natAbs
    spec := { spec with left := spec.left || w < 0, width }
    c := c.step
  else if c.char.isDigit && !c.ended then
    let (w, c') ← readDigits maxWidth (.invalid "width too big") (digitValue c.char) fuel c
    spec := { spec with width := w }
    c := c'
  if c.char == '.' && !c.ended then
    spec := { spec with precision := some 0 }
    c := c.step
    if c.char == '*' && !c.ended then
      let (p, src') ← starValue src
      src := src'
      if p < -(Nat.pow 2 31 : Int) || (Nat.pow 2 31 : Int) ≤ p then
        throw (.tooLarge "Python int too large to convert to C int")
      spec := { spec with precision := some p.toNat }
      c := c.step
    else if c.char.isDigit && !c.ended then
      let (p, c') ← readDigits maxPrecision (.invalid "precision too big") (digitValue c.char) fuel c
      spec := { spec with precision := some p }
      c := c'
  if !c.ended && (c.char == 'h' || c.char == 'l' || c.char == 'L') then c := c.step
  if c.ended then throw (.invalid "incomplete format")
  let (v, src') ← src.next
  return (← convert spec c.ch c.index v, src', c.rest)

def percentCode : Nat := 37

/-- Fills the codes of a template from a source, giving the text and the source left; `index`
is the position of `cs` in the template. -/
def fill (src : Source) : Nat → List Nat → Nat → Except Fault (Filled × Source)
  | 0, _, _ => pure (.text "", src)
  | _, [], _ => pure (.text "", src)
  | fuel + 1, c :: cs, index => do
    if c == percentCode then
      match cs with
      | d :: more =>
        if d == percentCode then
          let (t, src') ← fill src fuel more (index + 2)
          return ((Filled.text "%").append t, src')
        else conversionThen src fuel cs index
      | [] => conversionThen src fuel cs index
    else
      let (t, src') ← fill src fuel cs (index + 1)
      return ((Filled.text (Text.ofCode c)).append t, src')
where
  /-- A conversion whose `%` stands at `index`, then the rest of the template. -/
  conversionThen (src : Source) (fuel : Nat) (cs : List Nat) (index : Nat) :
      Except Fault (Filled × Source) := do
    let (t, src', after) ← conversion src cs (index + 1)
    let (u, src'') ← fill src' fuel after (index + 1 + (cs.length - after.length))
    return (t.append u, src'')

/-- Whether a source still holds values no conversion took; a mapping never does. -/
def Source.leftOver (s : Source) : Bool :=
  s.mapping.isNone && (s.single.isSome || !s.rest.isEmpty)

/-- Fills a template; a value left over is a fault, and so is a text too long to build. -/
def render (template : String) (src : Source) : Except Fault String := do
  let cs := Text.codes template
  let (out, src') ← fill src (cs.length + 1) cs 0
  if src'.leftOver then throw (.badCall "not all arguments converted during string formatting")
  match out with
  | .text s => pure s
  | .long _ => throw .outOfMemory

/-- The values of a log call as a source: one non-empty mapping is used by key, any other
values in order. -/
def Source.ofArgs (args : List Value) : Source :=
  match args with
  | [.dict kvs] => if kvs.isEmpty then ⟨args, none, none⟩ else ⟨[], some (.dict kvs), some kvs⟩
  | _ => ⟨args, none, none⟩

end Arbitrage.Printf
