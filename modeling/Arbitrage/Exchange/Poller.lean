import Arbitrage.Exchange.Basic
import Arbitrage.Volatility

namespace Arbitrage

def pollLogger : String := "meatna.infra.polling_manager"

/-- A poller: the venue's name as given and the venue, the markets whose books and tickers it
polls, whether it warns about failures, and the pause after each round. -/
structure Poller where
  name : Value
  venue : String
  bookMarkets : List Value
  tickerMarkets : List Value
  verbose : Bool
  interval : Value
  deriving Inhabited

namespace Poller

/-- Opens a poller on the named venue. -/
def connect (name : Value) (verbose : Bool) (interval bookMarkets tickerMarkets : Value) :
    SessionM Poller := do
  let books ← Session.ofExcept bookMarkets.members
  let tickers ← Session.ofExcept tickerMarkets.members
  let v ← Session.connect restModule name [.dict [(.str "enableRateLimit", .bool true)]] []
  return ⟨name, v, books, tickers, verbose, interval⟩

/-- Reports a market that failed, when the poller is verbose. -/
def report (p : Poller) (kind : String) (market : Value) (f : Fault) : SessionM Unit :=
  if p.verbose then
    Session.write .warning pollLogger
      s!"[{kind}] Failed for {p.name.text} ({market.text}): {f.message}"
  else pure ()

/-- One poll of a market's book: fetched, and handed to the cache when not empty. -/
def pollBook (p : Poller) (cacheVerbose : Bool) (market : Value) : SessionM Unit := do
  let symbol ← Session.ofExcept (symbolOfCode market)
  let raw ← Session.fetch p.venue "fetch_order_book" [.str symbol] [("limit", .int 15)]
    (.book symbol)
  if raw.truthy then Session.logged (BookCache.ingest cacheVerbose p.name market raw)

/-- The ticker of a market, or none when it carries no last price. -/
def readTicker (p : Poller) (market : Value) : SessionM (Option Ticker) := do
  let symbol ← Session.ofExcept (symbolOfCode market)
  let t ← Session.fetch p.venue "fetch_ticker" [.str symbol] [] (.ticker symbol)
  if !(← Session.ofExcept (t.contains (.str "last"))) then return none
  let stamp ← Session.ofExcept (do (← t.get "timestamp" .null).orZero.toInt)
  let price ← Session.ofExcept (do (← t.item (.str "last")).toDouble)
  return some ⟨market.text, stamp, price⟩

/-- One poll of a market's ticker, its last price recorded in the windows. -/
def pollTicker (p : Poller) (c : Config) (market : Value) : SessionOn Volatility Unit := do
  let some t ← SessionOn.session (p.readTicker market) | return
  SessionOn.side (Volatility.record c (.str t.market) (.int t.timestamp) (.float t.price))

/-- One book round: every book market, then a pause. -/
def bookRound (p : Poller) (cacheVerbose : Bool) : SessionM Unit := do
  for m in p.bookMarkets do
    tryCatch (p.pollBook cacheVerbose m) (p.report "WS-OB" m)
  Session.pause p.interval

/-- One ticker round: every ticker market, then a pause. -/
def tickerRound (p : Poller) (c : Config) : SessionOn Volatility Unit := do
  for m in p.tickerMarkets do
    tryCatch (p.pollTicker c m) fun f => SessionOn.session (p.report "WS-TICK" m f)
  SessionOn.session (Session.pause p.interval)

/-- Starts polling: loads the venue's markets, then runs `rounds` book rounds and `rounds`
ticker rounds. -/
def start (p : Poller) (c : Config) (rounds : Nat) (cacheVerbose : Bool) :
    SessionOn Volatility Unit := do
  SessionOn.session do
    let _ ← Session.fetch p.venue "load_markets" [] [] .markets
    if p.verbose then
      Session.write .info pollLogger
        s!"WSManager({p.venue}) started: {p.bookMarkets.length} orderbooks, {p.tickerMarkets.length} tickers"
    for _ in List.range rounds do p.bookRound cacheVerbose
  for _ in List.range rounds do p.tickerRound c

def stop (p : Poller) : SessionM Unit := Session.close p.venue

end Poller

end Arbitrage
