import Arbitrage.Market.Graph

/-!
Choosing the markets to trade: those whose code is `quote-base`, quoted in a currency that has an
order minimum, with a base currency whose token is enabled.
-/

namespace Arbitrage

namespace Market

/-- Whether a market may be traded under a configuration. -/
def selectable (c : Config) (m : Market) : Except Fault Bool := do
  if !(← m.code.contains (.str "-")) then return false
  let (q, b) ← m.code.splitPair '-'
  if !c.minOrder.quoteMinNotional.any (Value.equal ·.1 (.str q)) then return false
  return c.tokens.any fun (k, t) => t.enabled && Value.equal k (.str b)

end Market

def selectMarkets (c : Config) (ms : List Market) : Except Fault (List Market) :=
  ms.filterM (Market.selectable c)

end Arbitrage
