import Arbitrage.Config.Basic
import Arbitrage.Data.Access
import Arbitrage.Data.Order
import Arbitrage.Data.SetOrder

/-!
The market graph: a buy edge and a sell edge per market, listed in order and filed under the asset
each leaves.
-/

namespace Arbitrage

/-- A market: its code and its base and quote currencies. -/
structure Market where
  code : Value
  base : Value
  quote : Value
  deriving Inhabited

/-- The side of a trade: buying the base currency with the quote, or selling it. -/
inductive Side where
  | buy
  | sell
  deriving Repr, Inhabited, DecidableEq

def Side.name : Side → String
  | .buy => "buy"
  | .sell => "sell"

/-- A directed edge of the market graph: trading on `marketCode` turns `fromAsset` into
`toAsset`. -/
structure Edge where
  marketCode : Value
  fromAsset : Value
  toAsset : Value
  side : Side
  feeRate : Float
  minTotal : Float
  exchange : String
  deriving Inhabited

def Edge.isReversed (e : Edge) : Bool := e.side == .sell

/-- The market graph: its edges in insertion order, and the same edges filed under the asset each
leaves, the assets in the order they first leave an edge. -/
structure Graph where
  edges : List Edge
  bySource : List (Value × List Edge)
  deriving Inhabited

def standardFee : Float := 0.0004

/-- The text before the first `::` of a key. -/
def exchangeOfKey (key : String) : String :=
  match Text.splitFirst key "::" with
  | some (ex, _) => ex
  | none => key

/-- Keys a list of markets by code as a mapping does: a later market with an equal code replaces
the earlier one in its place, and a code that cannot be a key is a fault. -/
def keyByCode (ms : List Market) : Except Fault (List (Value × Market)) :=
  ms.foldlM (fun acc m =>
    if m.code.hashable then pure (Value.insert acc m.code m)
    else throw (.unhashable m.code.typeName)) []

/-- The minimum notional of an edge quoted in `quote`: the configured minimum of that currency
(1.0 when it has none) as a double, times the multiplier. -/
def minTotalFor (minOrder : Option MinOrder) (quote : Value) : Except Fault Float := do
  match minOrder with
  | none => pure 1.0
  | some mo =>
    let base ← Value.getKey (.dict mo.quoteMinNotional) quote (.float 1.0)
    pure ((← base.toDouble) * mo.minNotionalMultiplier)

/-- The exchange and market code of a keyed market. -/
def codeOfKey (key : Value) (m : Market) : Except Fault (String × Value) := do
  if ← key.contains (.str "::") then
    match key with
    | .str s => pure (exchangeOfKey s, key)
    | k => throw (.noAttribute k.typeName "split")
  else pure ("", m.code)

/-- Files an edge under an asset: the edge joins the list of the first equal asset, or starts a
list of its own at the end. -/
def fileUnder : List (Value × List Edge) → Value → Edge → List (Value × List Edge)
  | [], a, e => [(a, [e])]
  | (k, es) :: rest, a, e =>
    if Value.equal k a then (k, es ++ [e]) :: rest else (k, es) :: fileUnder rest a e

namespace Graph

def empty : Graph := ⟨[], []⟩

/-- Adds an edge at the end of the edges and files it under the asset it leaves, which must be
able to be a key. -/
def addEdge (g : Graph) (e : Edge) : Except Fault Graph :=
  if e.fromAsset.hashable then pure ⟨g.edges ++ [e], fileUnder g.bySource e.fromAsset e⟩
  else throw (.unhashable e.fromAsset.typeName)

/-- Adds a keyed market's buy edge, from its quote to its base, then its sell edge back. -/
def addMarket (minOrder : Option MinOrder) (g : Graph) (km : Value × Market) :
    Except Fault Graph := do
  let (exchange, code) ← codeOfKey km.1 km.2
  let buyMin ← minTotalFor minOrder km.2.quote
  let g ← g.addEdge ⟨code, km.2.quote, km.2.base, .buy, standardFee, buyMin, exchange⟩
  let sellMin ← minTotalFor minOrder km.2.quote
  g.addEdge ⟨code, km.2.base, km.2.quote, .sell, standardFee, sellMin, exchange⟩

/-- The graph of keyed markets, added in key order to the graph with no edges. -/
def build (markets : List (Value × Market)) (minOrder : Option MinOrder) :
    Except Fault Graph :=
  markets.foldlM (addMarket minOrder) empty

/-- The edges filed under an asset; none when no equal asset leaves an edge. -/
def outEdges (g : Graph) (asset : Value) : List Edge :=
  (Value.lookup g.bySource asset).getD []

/-- The edges that leave an asset, looked up as a mapping is: an asset that cannot be a key is
a fault. -/
def outEdgesOf (g : Graph) (asset : Value) : Except Fault (List Edge) :=
  if asset.hashable then pure (g.outEdges asset) else throw (.unhashable asset.typeName)

/-- The distinct market codes of the graph, in the order a set of them is iterated; a code that
cannot be a set member is a fault. -/
def allMarkets (g : Graph) : Except Fault (List Value) :=
  Value.setOfAdded (g.edges.map (·.marketCode))

def marketCodes (g : Graph) : Except Fault (List Value) :=
  do Value.sorted (← g.allMarkets)

def findEdge? (g : Graph) (fromAsset toAsset : Value) : Option Edge :=
  g.edges.find? fun e => Value.equal e.fromAsset fromAsset && Value.equal e.toAsset toAsset

end Graph

end Arbitrage
