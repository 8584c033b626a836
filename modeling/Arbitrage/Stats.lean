import Arbitrage.Data.Order
import Arbitrage.Data.Coerce

/-!
Statistics of price series: log returns, the population standard deviation, and the depth of the top
order-book levels.
-/

namespace Arbitrage.Stats

open Arbitrage.Value

/-- The logarithm of a double: `math domain error` at zero and below. -/
def logOf (x : Float) : Except Fault Float :=
  if x.isNaN then pure x
  else if x ≤ 0.0 then throw .domain
  else pure (Float.log x)

/-- The log return from `previous` to `current`; zero when either price is not positive. -/
def logReturn (current previous : Value) : Except Fault Float := do
  if ← lessEq current (.int 0) then return 0.0
  if ← lessEq previous (.int 0) then return 0.0
  logOf (← trueDiv current previous)

/-- The integer square root, by Newton steps from above. -/
def isqrt (n : Nat) : Nat :=
  if n < 2 then n
  else
    let rec go : Nat → Nat → Nat
      | 0, x => x
      | fuel + 1, x =>
        let y := (x + n / x) / 2
        if y < x then go fuel y else x
    go (Nat.log2 n + 4) (Nat.pow 2 (Nat.log2 n / 2 + 1))

/-- The square root of `n / m` rounded to an integer with the last bit set when inexact. -/
def sqrtRoundOdd (n m : Nat) : Nat :=
  let a := isqrt (n / m)
  if a * a * m != n then a ||| 1 else a

/-- The square root of the fraction `n / m` rounded once to the nearest double: the root is
taken with 109 bits and a sticky last bit, then divided as integers, so a root past the largest
double is the fault `quotientTooLarge`. -/
def sqrtRatio (n m : Nat) : Except Fault Float :=
  let bits (k : Nat) : Int := if k == 0 then 0 else (Nat.log2 k + 1 : Nat)
  let q : Int := (bits n - bits m - 109) / 2
  if 0 ≤ q then
    Value.intQuotient ((sqrtRoundOdd n (m * Nat.pow 2 (2 * q).toNat) * Nat.pow 2 (q.toNat) : Nat)) 1
  else
    Value.intQuotient (sqrtRoundOdd (n * Nat.pow 2 (2 * (-q)).toNat) m : Nat)
      (Nat.pow 2 (-q).toNat : Nat)

/-- A number as an exact fraction `num / den`, `none` for infinities and NaN. -/
def exactRatio (v : Value) : Except Fault (Option (Int × Nat)) :=
  match v with
  | .float x => pure (Binary64.toFraction? x)
  | v =>
    match v.asInt? with
    | some i => pure (some (i, 1))
    | none => throw (.noFraction v.typeName)

/-- The population standard deviation of numbers, from the exact sum of squared deviations. An
infinite or NaN member leaves a double where a fraction is needed. -/
def popStdDev (xs : List Value) : Except Fault Float := do
  let mut nonFinite := false
  let mut sum : Int × Nat := (0, 1)
  let mut sumSq : Int × Nat := (0, 1)
  for x in xs do
    match ← exactRatio x with
    | some (a, b) =>
      sum := (sum.1 * b + a * sum.2, sum.2 * b)
      sumSq := (sumSq.1 * (b * b) + a * a * sumSq.2, sumSq.2 * (b * b))
    | none => nonFinite := true
  if nonFinite then throw (.noAttribute "float" "numerator")
  let n : Nat := xs.length
  -- mean square deviation = (n Σx² − (Σx)²) / n², as a fraction
  let num : Int := (n * sumSq.1) * (sum.2 * sum.2) - sum.1 * sum.1 * sumSq.2
  let den : Nat := sumSq.2 * (sum.2 * sum.2) * (n * n)
  sqrtRatio num.toNat den

/-- The standard deviation used for volatility: zero for fewer than two values. A value that
is not a collection has no length. -/
def stddev (values : Value) : Except Fault Float := do
  if !values.truthy then return 0.0
  let xs ← match values with
    | .list xs | .tuple xs => pure xs
    | .str s => pure ((Text.codes s).map fun n => Value.str (Text.ofCode n))
    | .dict kvs => pure (kvs.map (·.1))
    | v => throw (.noLength v.typeName)
  if xs.length == 1 then return 0.0
  popStdDev xs

/-- The leading part of a list as a slice up to `stop` takes it: a negative stop counts from
the end. -/
def sliceTo (xs : List α) (stop : Int) : List α :=
  if 0 ≤ stop then xs.take stop.toNat else xs.take (xs.length - (-stop).toNat)

/-- The total size of the first `depth` levels: a level written as a pair contributes its
second member, a record its `size` field (zero without one), anything else zero. -/
def sumTopLevels (levels depth : Value) : Except Fault Float := do
  let all ← levels.members
  let chosen ← match depth with
    | .null => pure all
    | d =>
      match d.asInt? with
      | some k => pure (sliceTo all k)
      | none => throw (.badCall "slice indices must be integers or None or have an __index__ method")
  let mut total : Float := 0.0
  for level in chosen do
    let size ← match level with
      | .list xs | .tuple xs =>
        match xs[1]? with
        | some s => pure s
        | none => throw .indexOutOfRange
      | .dict kvs => pure ((field? kvs "size").getD (.float 0.0))
      | _ => pure (.float 0.0)
    total := total + (← size.toDouble)
  pure total

/-- The default volatility of each token tier, in any number type with decimal literals. -/
def defaultSigmaByTier {α : Type} [OfScientific α] : List (Int × α) :=
  [(0, 0.0003), (1, 0.0005), (2, 0.0015), (3, 0.003), (4, 0.005), (5, 0.01)]

end Arbitrage.Stats
