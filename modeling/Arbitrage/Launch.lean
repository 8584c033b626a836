import Arbitrage.Exchange.Bootstrap
import Arbitrage.Market.Selection

/-!
The start-up of the bot: seed from the default venue, choose the markets to trade, build the market
graph.
-/

namespace Arbitrage

def launchVenue : Value := .str "coinbase"

def noMarkets : Fault := .stopped "No markets available for configured tokens"

def graphFromListings : Fault := .noClassAttribute "MarketGraph" "build"

/-- Runs the start-up under a configuration, up to the point where it stops. -/
def launch (c : Config) : SessionM Unit := do
  let b ← Bootstrap.connect .null .null launchVenue
  b.enter
  tryCatch (do
      let listings ← b.fetchMarkets
      let chosen ← Session.ofExcept
        (selectMarkets c (listings.map fun l => ⟨.str l.code, l.base, l.quote⟩))
      if chosen.isEmpty then throw noMarkets
      throw graphFromListings)
    fun e => do
      let _ ← b.close
      throw e

end Arbitrage
