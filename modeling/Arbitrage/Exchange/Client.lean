import Arbitrage.Exchange.Basic

namespace Arbitrage

/-- A client: the venues opened, in the order first opened, and whether a market code
without a dash is a fault rather than a market without a book. -/
structure Client where
  venues : List String
  strict : Bool
  deriving Inhabited

def balanceAssets : List String := ["USDC", "USD", "BTC", "USDT", "ETH"]

namespace Client

/-- Opens a client on the named venues, or on the secrets' `coinbase` and `kraken` entries. -/
def connect (strict : Bool) (secrets : Value) (names : Option Value) : SessionM Client := do
  let names ← match names with
    | some ns => Session.ofExcept ns.members
    | none => match secrets with
      | .dict kvs => pure ((kvs.map (·.1)).filter fun k =>
          Value.equal k (.str "coinbase") || Value.equal k (.str "kraken"))
      | v => throw (.noAttribute v.typeName "keys")
  let mut opened : List String := []
  for name in names do
    let cfg ← Session.ofExcept (secrets.getKey name (.dict []))
    let key ← Session.ofExcept (cfg.get "api_key" (.str ""))
    let secret ← Session.ofExcept (cfg.get "api_secret" (.str ""))
    let params : Value := .dict [(.str "apiKey", key), (.str "secret", secret),
      (.str "enableRateLimit", .bool true)]
    let v ← Session.connect restModule name [params] []
    if !opened.contains v then opened := opened ++ [v]
  return ⟨opened, strict⟩

def find? (c : Client) (name : Value) : Except Fault (Option String) :=
  if !name.hashable then throw (.unhashable name.typeName)
  else pure (c.venues.find? fun v => Value.equal name (.str v))

/-- The listings of every venue, keyed by code. -/
def loadMarkets (c : Client) : SessionM (List (String × List Listing)) :=
  c.venues.mapM fun v => do
    let table ← Session.fetch v "load_markets" [] [] .markets
    return (v, Listing.keyed (← Session.ofExcept (Listing.ofTable table)))

/-- The book of a market on a venue, asked for 25 levels a side. -/
def fetchBook (c : Client) (exchange code : Value) : SessionM (Option Snapshot) := do
  let some v ← Session.ofExcept (c.find? exchange) | return none
  if !c.strict then
    if !(← Session.ofExcept (code.contains (.str "-"))) then return none
  let symbol ← Session.ofExcept (symbolOfCode code)
  let raw ← Session.fetch v "fetch_order_book" [.str symbol] [("limit", .int 25)] (.book symbol)
  if !raw.truthy then return none
  let bids ← Session.ofExcept (do rawLevels (← raw.get "bids" (.list [])))
  let asks ← Session.ofExcept (do rawLevels (← raw.get "asks" (.list [])))
  let stamp ← Session.ofExcept (do (← raw.get "timestamp" .null).orZero.toInt)
  return some ⟨.str v, code, ⟨bids, asks⟩, .int stamp⟩

/-- The free balance of each asset on a venue: zero unless the venue describes the asset by a
mapping. -/
def fetchBalance (c : Client) (exchange : Value) : SessionM (Option (List (String × Float))) := do
  let some v ← Session.ofExcept (c.find? exchange) | return none
  let bal ← Session.fetch v "fetch_balance" [] [] .balance
  let amounts ← balanceAssets.mapM fun a => do
    match ← Session.ofExcept (bal.get a .null) with
    | info@(.dict _) => return (a, ← Session.ofExcept (do (← info.get "free" (.int 0)).toDouble))
    | _ => return (a, 0.0)
  return some amounts

def close (c : Client) : SessionM Unit :=
  c.venues.forM fun v => tryCatch (Session.close v) fun _ => pure ()

end Client

end Arbitrage
