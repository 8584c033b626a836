import Arbitrage.Exchange.Basic

/-!
Seeding from one venue before streaming starts: its market list, a first book of each market and
single tickers.
-/

namespace Arbitrage

/-- A seeding connection: the venue's name as given, the venue, and whether it is closed. -/
structure Bootstrap where
  exchange : String
  venue : String
  closed : Bool
  deriving Inhabited

namespace Bootstrap

/-- Opens the named venue, passing the keys when both are true. -/
def connect (apiKey secret name : Value) : SessionM Bootstrap := do
  let auth := if apiKey.truthy && secret.truthy then
    [(Value.str "apiKey", apiKey), (.str "secret", secret)] else []
  let v ← Session.connect restModule name [.dict ([(.str "enableRateLimit", .bool true)] ++ auth)] []
  return ⟨name.text, v, false⟩

def enter (b : Bootstrap) : SessionM Unit := do
  let _ ← Session.fetch b.venue "load_markets" [] [] .markets

/-- Closes the connection once; the closed connection is handed back only when the venue
accepts. -/
def close (b : Bootstrap) : SessionM Bootstrap := do
  if b.closed then return b
  Session.close b.venue
  return { b with closed := true }

def fetchMarkets (b : Bootstrap) : SessionM (List Listing) := do
  let table ← Session.fetch b.venue "load_markets" [] [] .markets
  Session.ofExcept (Listing.ofTable table)

/-- The first book of a market with `depth` levels a side: its positive levels, if both sides
have one. -/
def firstBook (b : Bootstrap) (market depth : Value) : SessionM (Option Snapshot) := do
  let symbol ← Session.ofExcept (symbolOfCode market)
  let raw ← Session.fetch b.venue "fetch_order_book" [.str symbol] [("limit", depth)]
    (.book symbol)
  let bids ← Session.ofExcept (do positiveLevels (← raw.get "bids" (.list [])))
  let asks ← Session.ofExcept (do positiveLevels (← raw.get "asks" (.list [])))
  if bids.isEmpty || asks.isEmpty then return none
  let stamp ← Session.ofExcept (do (← raw.get "timestamp" .null).orZero.toInt)
  return some ⟨.str b.exchange, market, ⟨bids, asks⟩, .int stamp⟩

/-- The first books of the markets, in order; a market that fails is passed over. -/
def fetchBooks (b : Bootstrap) (markets depth : Value) : SessionM (List Snapshot) := do
  let ms ← Session.ofExcept markets.members
  ms.filterMapM fun m => tryCatch (b.firstBook m depth) fun _ => pure none

/-- The last trade of a market. -/
def fetchTicker (b : Bootstrap) (market : Value) : SessionM Ticker := do
  let symbol ← Session.ofExcept (symbolOfCode market)
  let t ← Session.fetch b.venue "fetch_ticker" [.str symbol] [] (.ticker symbol)
  let stamp ← Session.ofExcept (do (← t.get "timestamp" .null).orZero.toInt)
  let price ← Session.ofExcept (do (← t.item (.str "last")).toDouble)
  return ⟨market.text, stamp, price⟩

end Bootstrap

end Arbitrage
