import Arbitrage.Book.Basic
import Arbitrage.Market.Graph
import Arbitrage.Fault
import Arbitrage.Number.Amount

namespace Arbitrage

/-- A leg of a route as it is filled: the market, the side, the fee rate and the minimum
notional of the edge. -/
structure Leg (α : Type) where
  marketCode : Value
  side : Side
  feeRate : α
  minTotal : α
  deriving Inhabited

/-- A filled leg: the quote notional it moved, its price after fees, the amounts that went in
and came out, the fee rate, and the levels it took with the size taken at each. -/
structure Fill (α : Type) where
  marketCode : Value
  side : Side
  notional : α
  price : α
  input : α
  output : α
  feeRate : α
  depth : List (Level α)
  deriving Inhabited

/-- What filling a leg gives: a fill and its slippage, or why there is none. -/
inductive LegOutcome (α : Type) where
  | filled (fill : Fill α) (slippage : α)
  | refused (reason : String)

/-- Where a walk down a book stands: the amount still to place, the base currency gained (a
buy), the quote currency moved, and the levels taken so far. -/
structure Walk (α : Type) where
  remaining : Amount α
  gained : α
  moved : α
  depth : List (Level α)

namespace Walk

variable {α : Type} [Scalar α]

def start (amount : Amount α) : Walk α := ⟨amount, 0, 0, []⟩

/-- Spends the quote left on asks, best first. -/
def asks (code : String) : List (Level α) → Walk α → Except Fault (Walk α)
  | [], w => pure w
  | l :: rest, w =>
    if ¬ (0 < l.price) then throw (.assertion s!"Zero-price detected in {code}")
    else if l.size ≤ 0 then asks code rest w
    else
      let cost := l.price * l.size
      if w.remaining.ge cost then do
        let r ← w.remaining.toScalar
        asks code rest ⟨.scalar (r - cost), w.gained + l.size, w.moved + cost, w.depth ++ [l]⟩
      else do
        let r ← w.remaining.toScalar
        let part := r / l.price
        pure ⟨.scalar 0, w.gained + part, w.moved + r, w.depth ++ [⟨l.price, part⟩]⟩

/-- Sells the base left to bids, best first. -/
def bids (code : String) : List (Level α) → Walk α → Except Fault (Walk α)
  | [], w => pure w
  | l :: rest, w =>
    if ¬ (0 < l.price) then throw (.assertion s!"Zero-price detected in {code}")
    else if l.size ≤ 0 then bids code rest w
    else if w.remaining.ge l.size then do
      let r ← w.remaining.toScalar
      bids code rest ⟨.scalar (r - l.size), w.gained, w.moved + l.price * l.size, w.depth ++ [l]⟩
    else do
      let r ← w.remaining.toScalar
      pure ⟨.scalar 0, w.gained, w.moved + l.price * r, w.depth ++ [⟨l.price, r⟩]⟩

end Walk

def walkTolerance {α : Type} [Scalar α] : α := 1e-9

/-- How far a price lies above a reference price, as a fraction of it and never below zero;
zero when the reference is not positive. -/
def slippageAbove {α : Type} [Scalar α] (reference price : α) : α :=
  if reference ≤ 0 then 0 else Scalar.keepMax 0 ((price - reference) / reference)

/-- How far a price lies below a reference price, as a fraction of it and never below zero;
zero when the reference is not positive. -/
def slippageBelow {α : Type} [Scalar α] (reference price : α) : α :=
  if reference ≤ 0 then 0 else Scalar.keepMax 0 ((reference - price) / reference)

def shortNotional {α : Type} [Scalar α] (notional minimum : α) : String :=
  s!"notional {Scalar.fixed 8 notional} below minimum {Scalar.fixed 8 minimum}"

namespace Leg

variable {α : Type} [Scalar α]

/-- Buys base currency with `amount` of quote on the asks of `book`. -/
def buy (leg : Leg α) (book : Book α) (amount : Amount α) (minimum : α) :
    Except Fault (LegOutcome α) := do
  if !amount.gt 0 then throw (.assertion s!"Zero notional entering leg {leg.marketCode.text}")
  let w ← Walk.asks leg.marketCode.text book.asks (Walk.start amount)
  if w.remaining.gt walkTolerance ∨ w.gained ≤ 0 then return .refused "insufficient ask depth"
  if w.moved < minimum then return .refused (shortNotional w.moved minimum)
  let average := w.moved / w.gained
  if average ≤ 0 then return .refused "invalid VWAP"
  let price := average * (1 + leg.feeRate)
  let input ← amount.toScalar
  return .filled ⟨leg.marketCode, .buy, w.moved, price, input, w.gained, leg.feeRate, w.depth⟩
    (slippageAbove book.bestAsk price)

/-- Sells `amount` of base currency on the bids of `book`. -/
def sell (leg : Leg α) (book : Book α) (amount : Amount α) (minimum : α) :
    Except Fault (LegOutcome α) := do
  if !amount.gt 0 then throw (.assertion s!"Zero notional entering leg {leg.marketCode.text}")
  let w ← Walk.bids leg.marketCode.text book.bids (Walk.start amount)
  if w.remaining.gt walkTolerance then return .refused "insufficient bid depth"
  if w.moved < minimum then return .refused (shortNotional w.moved minimum)
  let input ← amount.toScalar
  let average := if 0 < input then w.moved / input else 0
  if average ≤ 0 then return .refused "invalid VWAP"
  let price := average * (1 - leg.feeRate)
  return .filled ⟨leg.marketCode, .sell, w.moved, price, input, w.moved, leg.feeRate, w.depth⟩
    (slippageBelow book.bestBid price)

/-- Fills the leg on its side of the book. -/
def fill (leg : Leg α) (book : Book α) (amount : Amount α) (minimum : α) :
    Except Fault (LegOutcome α) :=
  match leg.side with
  | .buy => leg.buy book amount minimum
  | .sell => leg.sell book amount minimum

end Leg

/-- The debug line of a fill: market, side, amounts in and out and the price after fees. -/
def Fill.logText {α : Type} [Scalar α] (f : Fill α) : String :=
  s!"leg {f.marketCode.text} side={f.side.name} in={Scalar.fixed 6 f.input} " ++
    s!"out={Scalar.fixed 6 f.output} vwap={Scalar.fixed 6 f.price}"

end Arbitrage
