import Arbitrage.Stats
import Arbitrage.Config.Basic

/-!
Volatility from recent prices: a sliding window of price samples per asset, fed by tickers of won-
quoted markets, and the sigma of an asset per second.
-/

namespace Arbitrage

/-- A price seen at a time, in milliseconds. -/
structure Sample where
  timestampMs : Int
  price : Float
  deriving Inhabited

/-- The price windows of the assets, in the order the assets were first seen. -/
structure Volatility where
  windows : List (String × List Sample)
  deriving Inhabited

namespace Volatility

def empty : Volatility := ⟨[]⟩

def window (v : Volatility) (asset : String) : List Sample :=
  ((v.windows.find? (·.1 == asset)).map (·.2)).getD []

def hasData (v : Volatility) : Bool := v.windows.any fun w => !w.2.isEmpty

/-- The number of samples of every asset with a non-empty window, sorted by asset. -/
def sizes (v : Volatility) : List (String × Nat) :=
  ((v.windows.filter fun w => !w.2.isEmpty).map fun w => (w.1, w.2.length)).mergeSort
    fun a b => Text.codeLe a.1 b.1

/-- Replaces the window of an asset, adding the asset at the end when it is new. -/
def setWindow (v : Volatility) (asset : String) (w : List Sample) : Volatility :=
  if v.windows.any (·.1 == asset) then
    ⟨v.windows.map fun e => if e.1 == asset then (asset, w) else e⟩
  else ⟨v.windows ++ [(asset, w)]⟩

/-- The window length in milliseconds: the configured seconds times 1000, toward zero. -/
def horizonMs (c : Config) : Except Fault Int :=
  Value.toInt (.float (c.risk.volatilityWindowSeconds * 1000.0))

/-- Drops samples from the front of a window while they are older than `cutoff`. -/
def prune (cutoff : Int) (w : List Sample) : List Sample :=
  w.dropWhile (·.timestampMs < cutoff)

/-- The quote and base currency of a market code `quote-base`, `none` for a code without a
dash; a code with more than one dash does not split into two. -/
def marketParts (market : Value) : Except Fault (Option (String × String)) :=
  match market with
  | .str s =>
    if !s.toList.contains '-' then pure none
    else match (s.toList.splitOn '-').map String.ofList with
      | [q, b] => pure (some (q, b))
      | _ => throw (.tooManyToUnpack 2)
  | .list xs | .tuple xs =>
    if xs.any (Value.equal · (.str "-")) then throw (.noAttribute market.typeName "split")
    else pure none
  | .dict kvs =>
    if kvs.any (Value.equal ·.1 (.str "-")) then throw (.noAttribute "dict" "split")
    else pure none
  | v => throw (.notContainer v.typeName)

/-- Records a ticker of `market` at `timestamp` with `price`; only won-quoted markets count. -/
def record (c : Config) (market timestamp price : Value) :
    ExceptT Fault (StateM Volatility) Unit := do
  let some (q, base) ← MonadExcept.ofExcept (marketParts market) | return
  if q != "KRW" then return
  let p ← MonadExcept.ofExcept price.toDouble
  let t ← MonadExcept.ofExcept timestamp.toInt
  let w := (← get).window base ++ [⟨t, p⟩]
  modify (·.setWindow base w)
  let horizon ← MonadExcept.ofExcept (horizonMs c)
  modify (·.setWindow base (prune (t - horizon) w))

/-- The default sigma of an asset: that of its token's volatility tier, tier 3 without a
token, and 0.005 for a tier without a default. -/
def defaultSigma {α : Type} [OfScientific α] (c : Config) (asset : Value) : α :=
  let tier := ((c.tokenRule? asset).map (·.volatilityTier)).getD 3
  (((Stats.defaultSigmaByTier : List (Int × α)).find? (·.1 == tier)).map (·.2)).getD 0.005

/-- The square of a double as the power function gives it, from the magnitude. The power
function is within about half an ulp, so it can differ from the rounded product `x * x` in the
last bit; the variance adds squares made this way. -/
def square (x : Float) : Float := Float.pow (Float.abs x) 2.0

end Volatility

/-- The numbers a sigma is worked out in: arithmetic and its order, counts, the logarithm, the
square root, the square and the quotient of two integers. The scanner works in doubles; read in
exact real numbers, the same steps give the sigma of exact arithmetic. -/
class VolScalar (α : Type) extends Add α, Sub α, Mul α, Div α, LT α, LE α where
  /-- Zero. -/
  zero : α
  /-- `<` is decided. -/
  decLt : ∀ a b : α, Decidable (a < b)
  /-- `≤` is decided. -/
  decLe : ∀ a b : α, Decidable (a ≤ b)
  /-- A count as a number. -/
  ofNat : Nat → α
  /-- The natural logarithm, a fault outside its domain. -/
  log : α → Except Fault α
  /-- The square root. -/
  sqrt : α → α
  /-- The square. -/
  square : α → α
  /-- The quotient of two integers, a fault when the divisor is zero. -/
  quotient : Int → Int → Except Fault α

instance (priority := low) VolScalar.decidableLt (α : Type) [VolScalar α] (a b : α) : Decidable (a < b) :=
  VolScalar.decLt a b

/-- The non-strict order of a sigma's numbers is decided by their own test. -/
instance (priority := low) VolScalar.decidableLe (α : Type) [VolScalar α] (a b : α) : Decidable (a ≤ b) :=
  VolScalar.decLe a b

instance (priority := low) VolScalar.ofNatZero (α : Type) [VolScalar α] : OfNat α 0 := ⟨VolScalar.zero⟩

/-- Doubles: the logarithm of `math.log`, the square of the power function, and the quotient of
two integers rounded once. -/
instance floatVolScalar : VolScalar Float where
  zero := 0.0
  decLt := Float.decLt
  decLe := Float.decLe
  ofNat := Nat.toFloat
  log := Stats.logOf
  sqrt := Float.sqrt
  square := Volatility.square
  quotient := Value.intQuotient

namespace Volatility

variable {α : Type} [VolScalar α]

def total (xs : List α) : α := xs.foldl (· + ·) 0

def sqrtOf (x : α) : Except Fault α :=
  if x < 0 then throw .domain else pure (VolScalar.sqrt x)

/-- The sigma per second of a window of stamped prices, `fallback` when it has fewer than two
readings or no two consecutive ones with positive prices, and the mean positive gap replaced by
the sampling `interval` when there is none or it is not positive. -/
def spread (fallback interval : α) (w : List (Int × α)) : Except Fault α := do
  let pairs := (w.zip w.tail).filter fun (p, q) => !(q.2 ≤ 0) && !(p.2 ≤ 0)
  if w.length < 2 ∨ pairs.isEmpty then return fallback
  -- Each pair gives its return, then its gap, so a fault of an earlier pair comes first.
  let steps ← pairs.mapM fun (p, q) => do
    let r ← VolScalar.log (q.2 / p.2)
    if p.1 < q.1 then
      return (r, some (← VolScalar.quotient (q.1 - p.1) 1000))
    else return (r, none)
  let returns := steps.map (·.1)
  let gaps := steps.filterMap (·.2)
  let meanGap := if gaps.isEmpty then interval else total gaps / VolScalar.ofNat gaps.length
  let n := VolScalar.ofNat returns.length
  let mean := total returns / n
  let variance := returns.foldl (fun acc r => acc + VolScalar.square (r - mean)) 0 / n
  let sigma := VolScalar.sqrt (if variance < 0 then 0 else variance)
  let meanGap := if meanGap ≤ 0 then interval else meanGap
  let root ← sqrtOf meanGap
  if root ≤ 0 ∧ 0 ≤ root then throw .doubleDivisionByZero
  return sigma / root

def sigmaOf (c : Config) (asset : String) (w : List Sample) : Except Fault Float :=
  spread (defaultSigma c (.str asset)) c.risk.samplingIntervalSeconds
    (w.map fun s => (s.timestampMs, s.price))

def sigma (c : Config) (v : Volatility) (asset : String) : Except Fault Float :=
  sigmaOf c asset (v.window asset)

/-- The sigma of an asset given as any value: windows are kept for texts, so any other asset
has none and takes its token's default. -/
def sigmaAt (c : Config) (v : Volatility) (asset : Value) : Except Fault Float :=
  match asset with
  | .str a => v.sigma c a
  | a => pure (defaultSigma c a)

end Volatility

end Arbitrage
