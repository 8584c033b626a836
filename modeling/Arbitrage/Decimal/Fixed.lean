import Arbitrage.Number.Binary64
import Arbitrage.Decimal.Round

namespace Arbitrage.Decimal

/-- `±num / den` with exactly `places` digits after the point. -/
def fixedOfRatio (neg : Bool) (num den : Nat) (places : Nat) : String :=
  let r := roundHalfEven (num * Nat.pow 10 places) den
  let ds := padZeros (digitsOf r) (places + 1)
  let cut := ds.length - places
  let whole := String.ofList (ds.toList.take cut)
  let frac := String.ofList (ds.toList.drop cut)
  (if neg then "-" else "") ++ whole ++ (if places = 0 then "" else "." ++ frac)

/-- The significant digits of a positive `num / den` rounded to `count` digits, with the
decade of the first one. -/
def significant (num den : Nat) (count : Nat) : Nat × Int :=
  let k := floorLog10 num den
  let shift : Int := (count : Int) - 1 - k
  let r := if 0 ≤ shift then roundHalfEven (num * Nat.pow 10 (shift.toNat)) den
    else roundHalfEven num (den * Nat.pow 10 (-shift).toNat)
  if r ≥ Nat.pow 10 count then (r / 10, k + 1) else (r, k)

/-- Exponent text `d.ddd e±XX` of `±num / den` with `places` digits after the point. -/
def scientificOfRatio (neg : Bool) (num den : Nat) (places : Nat) : String :=
  let (r, k) := if num = 0 then (0, 0) else significant num den (places + 1)
  let ds := padZeros (digitsOf r) (places + 1)
  let head := String.ofList (ds.toList.take 1)
  let rest := String.ofList (ds.toList.drop 1)
  (if neg then "-" else "") ++ head ++ (if places = 0 then "" else "." ++ rest) ++ "e" ++
    (if k < 0 then "-" else "+") ++ padZeros (digitsOf k.natAbs) 2

/-- Drops trailing zeros after a decimal point, and the point if nothing follows it. -/
def dropTrailingZeros (s : String) : String :=
  if s.contains '.' then
    let cs := (s.toList.reverse.dropWhile (· == '0')).reverse
    match cs.getLast? with
    | some '.' => String.ofList cs.dropLast
    | _ => String.ofList cs
  else s

/-- General text with `precision` significant digits: positional when the rounded exponent lies
in `[-4, precision)`, exponent text otherwise, trailing zeros dropped in both. -/
def generalOfRatio (neg : Bool) (num den : Nat) (precision : Nat) : String :=
  let p := if precision = 0 then 1 else precision
  if num = 0 then (if neg then "-0" else "0")
  else
    let (_, k) := significant num den p
    if -4 ≤ k && k < p then
      dropTrailingZeros (fixedOfRatio neg num den (p - 1 - k).toNat)
    else
      let sci := scientificOfRatio neg num den (p - 1)
      match sci.splitOn "e" with
      | [mant, ex] => dropTrailingZeros mant ++ "e" ++ ex
      | _ => sci

/-- Applies a ratio formatter to a double; NaN and the infinities have fixed words. -/
def ofDouble (render : Bool → Nat → Nat → String) (x : Float) : String :=
  match Binary64.shape x with
  | .nan => "nan"
  | .infinite neg => if neg then "-inf" else "inf"
  | .finite neg m e =>
    if 0 ≤ e then render neg (m * Nat.pow 2 (e.toNat)) 1 else render neg m (Nat.pow 2 (-e).toNat)

def fixed (places : Nat) (x : Float) : String :=
  ofDouble (fun neg n d => fixedOfRatio neg n d places) x

def scientific (places : Nat) (x : Float) : String :=
  ofDouble (fun neg n d => scientificOfRatio neg n d places) x

def general (precision : Nat) (x : Float) : String :=
  ofDouble (fun neg n d => generalOfRatio neg n d precision) x

end Arbitrage.Decimal
