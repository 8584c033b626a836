import Arbitrage.Number.Binary64
import Arbitrage.Decimal.Round

namespace Arbitrage.Decimal

/-- The digits of a decimal `mantissa · 10^exponent`. -/
structure Scaled where
  mantissa : Nat
  exponent : Int
  deriving Repr, DecidableEq

/-- Removes trailing zeros of the mantissa into the exponent, at most `fuel` of them. -/
def Scaled.trim : Nat → Scaled → Scaled
  | 0, s => s
  | fuel + 1, s =>
    if s.mantissa != 0 && s.mantissa % 10 == 0 then
      Scaled.trim fuel ⟨s.mantissa / 10, s.exponent + 1⟩
    else s

/-- The rounding interval of `m · 2^e` and the value itself, all as multiples of `2^(e-2)`. -/
structure Interval where
  value : Nat
  below : Nat
  above : Nat
  closed : Bool

/-- The rounding interval of a positive double `m · 2^e`. -/
def Interval.ofBinary (m : Nat) (e : Int) : Interval :=
  { value := 4 * m
    below := if m == Nat.pow 2 52 && e > -1074 then 1 else 2
    above := 2
    closed := m % 2 == 0 }

/-- Tries the grid of `10^p`: the neighbour of the value there that reads back, if any.
`a / b` converts multiples of `2^(e-2)` into multiples of `10^p`. -/
def tryGrid (iv : Interval) (a b : Nat) (p : Int) : Option Scaled :=
  let v := iv.value * a
  let lo := (iv.value - iv.below) * a
  let hi := (iv.value + iv.above) * a
  let inside (t : Nat) : Bool :=
    if iv.closed then lo ≤ t * b && t * b ≤ hi else lo < t * b && t * b < hi
  let t := v / b
  let downOk := inside t
  let upOk := inside (t + 1)
  if downOk && upOk then
    let dDown := v - t * b
    let dUp := (t + 1) * b - v
    if dDown < dUp then some ⟨t, p⟩
    else if dUp < dDown then some ⟨t + 1, p⟩
    else if t % 2 == 0 then some ⟨t, p⟩ else some ⟨t + 1, p⟩
  else if downOk then some ⟨t, p⟩
  else if upOk then some ⟨t + 1, p⟩
  else none

/-- The shortest digits that read back as the positive double `m · 2^e`, nearest first. -/
def shortestOf (m : Nat) (e : Int) : Scaled :=
  let iv := Interval.ofBinary m e
  let twoUp := Nat.pow 2 (e - 2).toNat
  let twoDown := Nat.pow 2 (2 - e).toNat
  let decade := floorLog10 (iv.value * twoUp) twoDown
  let grid (k : Nat) : Option Scaled :=
    let p := decade - k + 1
    tryGrid iv (twoUp * Nat.pow 10 (-p).toNat) (twoDown * Nat.pow 10 (p.toNat)) p
  let found := (List.range' 1 17).findSome? grid
  let s := found.getD ⟨m, 0⟩
  s.trim 400

/-- How a double is written: positional notation when the decimal point falls after at least
`lowPoint + 1` and at most `highPoint` places from the first digit's left, otherwise one digit,
a point, the rest, `e`, a sign and at least `expDigits` exponent digits. -/
structure Style where
  lowPoint : Int
  highPoint : Int
  expDigits : Nat
  nanText : String
  infText : String

/-- Reports write numbers positionally from `1e-4` up to below `1e16`, keep `.0` on whole
numbers, and write `1e-05`, `1e+16`, `nan` and `inf` otherwise. -/
def Style.report : Style :=
  { lowPoint := -4, highPoint := 16, expDigits := 2, nanText := "nan", infText := "inf" }

/-- Writes `digits · 10^(point - digits.length)` in the style: `point` is where the decimal
point falls relative to the first digit. -/
def Style.render (st : Style) (neg : Bool) (digits : String) (point : Int) : String :=
  let sign := if neg then "-" else ""
  let n : Int := digits.length
  if st.lowPoint < point && point ≤ st.highPoint then
    if point ≤ 0 then
      sign ++ "0." ++ String.ofList (List.replicate (-point).toNat '0') ++ digits
    else if n ≤ point then
      sign ++ digits ++ String.ofList (List.replicate (point - n).toNat '0') ++ ".0"
    else
      sign ++ String.ofList (digits.toList.take point.toNat) ++ "." ++
        String.ofList (digits.toList.drop point.toNat)
  else
    let cs := digits.toList
    let head := String.ofList (cs.take 1)
    let rest := String.ofList (cs.drop 1)
    let x := point - 1
    let expSign := if x < 0 then "-" else "+"
    sign ++ head ++ (if rest.isEmpty then "" else "." ++ rest) ++ "e" ++ expSign ++
      padZeros (digitsOf x.natAbs) st.expDigits

/-- The shortest text of a double in a style. -/
def Style.shortest (st : Style) (x : Float) : String :=
  match Binary64.shape x with
  | .nan => st.nanText
  | .infinite neg => (if neg then "-" else "") ++ st.infText
  | .finite neg m e =>
    if m == 0 then (if neg then "-0.0" else "0.0")
    else
      let s := shortestOf m e
      let ds := digitsOf s.mantissa
      st.render neg ds (s.exponent + ds.length)

/-- The text of a double in reports: the shortest digits that read back, in `Style.report`. -/
def shortest (x : Float) : String := Style.report.shortest x

end Arbitrage.Decimal
