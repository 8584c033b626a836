import Arbitrage.Exchange.Basic
import Arbitrage.Data.SetOrder

/-!
Streaming order books: one watch per market on each venue that has a cache, until told to stop.
-/

namespace Arbitrage

def feedLogger : String := "meatna.exchange.websocket_manager"

def watchErrorLimit : Nat := 10

def streamingMissing : Fault :=
  .moduleMissing "CCXT Pro is required for WebSocket support. Install with: pip install ccxt[pro]"

/-- A feed: the exchanges that have a book cache, and the venues it streams from, in the order
opened. -/
structure Feed where
  caches : List Value
  venues : List String
  deriving Inhabited

/-- A watch between turns: the venue it asks, the exchange and market code it logs, the symbol
it asks for, and the errors counted so far. -/
structure Watch where
  venue : String
  exchange : String
  code : String
  symbol : String
  errors : Nat
  deriving Inhabited

/-- Where a watch waits when its turn ends. -/
inductive Wait where
  /-- ready to ask for its book: before its first turn, or in the pause after an empty answer
  or a stop; cancelling it here is logged -/
  | asking
  /-- in the pause after an error; cancelling it here ends it without a word -/
  | backoff
  /-- holding a held answer until it is cancelled, which is logged -/
  | held
  deriving Inhabited, BEq

/-- The turns each watch of a feed started in the background gets before the feed is closed. -/
def closingRounds : Nat := 198

/-- A streamed book read into its levels and time stamp; `none` for an answer that is empty or
lacks bids or asks. -/
def readStreamed (a : Value) : Except Fault (Option (Book Float × Int)) := do
  if !a.truthy then return none
  if !(← a.get "bids" .null).truthy then return none
  if !(← a.get "asks" .null).truthy then return none
  let bids ← rawLevels (← a.item (.str "bids"))
  let asks ← rawLevels (← a.item (.str "asks"))
  let stamp ← (← a.get "timestamp" (.int 0)).toInt
  return some (⟨bids, asks⟩, stamp)

namespace Feed

def say {σ : Type} (severity : Severity) (message : String) : SessionOn σ Unit :=
  SessionOn.session (Session.write severity feedLogger message)

/-- The end of a watch: the tenth error is logged. -/
def giveUp (w : Watch) : SessionOn Bool Unit :=
  if w.errors ≥ watchErrorLimit then
    say .error s!"❌ Too many errors for {w.exchange}::{w.code}, stopped watching"
  else pure ()

/-- One turn of a watch, the shared value being the stop signal. Unless the stop is set or its
errors are used up, the watch asks for its book once and handles the answer up to the pause or
hold that ends the turn; `none` when the watch is over. -/
def takeTurn (w : Watch) : SessionOn Bool (Option (Watch × Wait)) := do
  if (← get).2 || w.errors ≥ watchErrorLimit then
    giveUp w
    return none
  let answer ← SessionOn.session
    (Session.request w.venue "watch_order_book" [.str w.symbol] [("limit", .int 25)] (.book w.symbol))
  let fail := fun (message : String) => do
    let n := w.errors + 1
    say .debug s!"Error watching {w.exchange}::{w.code} (error {n}/{watchErrorLimit}): {message}"
    SessionOn.session (Session.pause (.float 1.0))
    return some ({ w with errors := n }, Wait.backoff)
  let retry := do
    SessionOn.session (Session.pause (.float 0.1))
    return some (w, Wait.asking)
  match answer with
  | none =>
    say .debug s!"Watch cancelled for {w.exchange}::{w.code}"
    return none
  | some a =>
    if marked "$stop" a then
      modify fun (s, _) => (s, true)
      retry
    else if marked "$block" a then return some (w, .held)
    else if let some m := refusal? a then fail m
    else match readStreamed a with
      | .error f => fail f.message
      | .ok none => retry
      | .ok (some _) => fail storeMisuse.message

/-- Runs at most `rounds` rounds, in each of which every watch not held takes one turn, in
order; answers the watches still waiting after them, held ones included. -/
def rotate : Nat → List (Watch × Wait) → SessionOn Bool (List (Watch × Wait))
  | 0, ws => pure ws
  | rounds + 1, ws => do
    if ws.all (·.2 == .held) then return ws
    let mut next : List (Watch × Wait) := []
    for (w, wait) in ws do
      if wait == .held then next := next ++ [(w, wait)]
      else if let some t ← takeTurn w then next := next ++ [t]
    rotate rounds next

/-- Enough rounds for the watches to end: each answer queued for a watch, the errors that end
it and one more turn. A watch that is always answered with an empty book never ends. -/
def roundsFor (ws : List Watch) : SessionOn Bool Nat := do
  let mut n := 1
  for w in ws do
    n := n + (← SessionOn.session (Session.queued w.venue (.book w.symbol))) + watchErrorLimit + 1
  return n

/-- The watches of an exchange's markets, each symbol `base/quote` watched under the code
`quote-base`; a symbol of another form is logged and skipped. -/
def openWatches (venue exchange : String) (markets : List Value) : SessionOn Bool (List Watch) := do
  let mut ws : List Watch := []
  for symbol in markets do
    let code := match symbol with
      | .str s => codeOfSymbol s
      | _ => none
    match symbol, code with
    | .str s, some c => ws := ws ++ [⟨venue, exchange, c, s, 0⟩]
    | _, _ => say .error s!"Invalid symbol format: {symbol.text}"
  return ws

def find? (f : Feed) (name : Value) : Except Fault (Option String) :=
  if !name.hashable then throw (.unhashable name.typeName)
  else pure (f.venues.find? fun v => Value.equal name (.str v))

/-- The number of members of a sized value. -/
def sizeOf (v : Value) : Except Fault Nat :=
  match v with
  | .list xs => pure xs.length
  | .str s => pure (Text.codeLength s)
  | .dict kvs => pure kvs.length
  | v => throw (.noLength v.typeName)

/-- Watches the markets of one exchange until every watch ends or holds; answers the watches
left waiting. -/
def subscribe (f : Feed) (exchange markets : Value) : SessionOn Bool (List (Watch × Wait)) := do
  let some venue ← SessionOn.side (MonadExcept.ofExcept (f.find? exchange))
    | say .warning s!"Exchange {exchange.text} not available"
      return []
  let n ← SessionOn.side (MonadExcept.ofExcept (sizeOf markets))
  say .info s!"📡 Subscribing to {n} markets on {exchange.text}"
  let ws ← openWatches venue exchange.text (← SessionOn.side (MonadExcept.ofExcept markets.members))
  let left ← rotate (← roundsFor ws) (ws.map (·, .asking))
  if left.isEmpty then say .info s!"🛑 Stopped watching {n} markets on {exchange.text}"
  return left

/-- The exchange and venue symbol of a needed market `exchange::quote-base`: the exchange is the
text before the first `::` and the code the text after it, and the symbol is `base/quote`. A
market without `::`, of a venue the feed does not stream from, or whose code does not split
into a quote and a base gives none. -/
def entry? (f : Feed) (m : Value) : Except Fault (Option (String × String)) := do
  if !(← m.contains (.str "::")) then return none
  let (ex, code) ← match m with
    | .str s => pure ((Text.splitFirst s "::").getD (s, ""))
    | v => throw (.noAttribute v.typeName "split")
  if !f.venues.contains ex then return none
  return (codeParts code).map fun (q, b) => (ex, symbolOf q b)

/-- Symbols grouped by exchange: a symbol joins the end of its exchange's group, and an exchange
not seen before opens a group at the end. -/
def addToGroup (out : List (String × List String)) (ex sym : String) :
    List (String × List String) :=
  if out.any (·.1 == ex) then out.map fun (e, ss) => if e == ex then (e, ss ++ [sym]) else (e, ss)
  else out ++ [(ex, [sym])]

/-- The groups with the symbol of a needed market added to its exchange's group, when the market
gives one. -/
def addEntry (f : Feed) (out : List (String × List String)) (m : Value) :
    Except Fault (List (String × List String)) := do
  match ← f.entry? m with
  | some (ex, sym) => return addToGroup out ex sym
  | none => return out

/-- The markets a start asks for, grouped by exchange in the order first seen: each entry
`exchange::quote-base` of a venue the feed streams from gives the symbol `base/quote`. -/
def groups (f : Feed) (needed : List Value) : Except Fault (List (String × List String)) :=
  needed.foldlM f.addEntry []

/-- The turns a subscription takes to see that all its watches have ended: one for their ends to
be gathered, one for the subscription to resume. -/
def noticeLag : Nat := 2

/-- Streams the needed markets, each once and in the order of a set of them, every exchange's
watches together, for at most `rounds` rounds when given and else until every watch ends or
holds; answers the watches left waiting. With a bound, an exchange's subscription reports that
it stopped only when its watches ended `noticeLag` rounds before the bound. -/
def launch (f : Feed) (needed : List Value) (rounds : Option Nat) :
    SessionOn Bool (List (Watch × Wait)) := do
  for m in needed do
    if !m.hashable then throw (.unhashable m.typeName)
  let markets := Value.addOrder needed
  say .info "🚀 Starting WebSocket subscriptions..."
  let gs ← SessionOn.side (MonadExcept.ofExcept (f.groups markets))
  for (ex, syms) in gs do
    say .info s!"  → {ex}: {syms.length} markets"
  let mut ws : List Watch := []
  for (ex, syms) in gs do
    say .info s!"📡 Subscribing to {syms.length} markets on {ex}"
    ws := ws ++ (← openWatches ex ex (syms.map .str))
  let (seen, left) ← match rounds with
    | some r => do
      let seen ← rotate (r - noticeLag) (ws.map (·, .asking))
      pure (seen, ← rotate (min r noticeLag) seen)
    | none => do
      let left ← rotate (← roundsFor ws) (ws.map (·, .asking))
      pure (left, left)
  for (ex, syms) in gs do
    if !seen.any (·.1.exchange == ex) then
      say .info s!"🛑 Stopped watching {syms.length} markets on {ex}"
  if left.isEmpty then say .info "✅ WebSocket subscriptions stopped"
  return left

/-- Starts streaming the needed markets and waits until every watch ends or holds; answers the
watches left waiting. -/
def start (f : Feed) (needed : List Value) : SessionOn Bool (List (Watch × Wait)) :=
  f.launch needed none

/-- Closes the feed: cancels the watches left waiting, logging those not in a pause after an
error, and closes every venue, logging refusals. -/
def close (f : Feed) (left : List (Watch × Wait)) : SessionM Feed := do
  Session.write .info feedLogger "Closing WebSocket connections..."
  for (w, wait) in left do
    if wait != .backoff then
      Session.write .debug feedLogger s!"Watch cancelled for {w.exchange}::{w.code}"
  for v in f.venues do
    tryCatch (do
        Session.close v
        Session.write .info feedLogger s!"  ✓ Closed {v}")
      fun e => Session.write .debug feedLogger s!"  ✗ Error closing {v}: {e.message}"
  return { f with venues := [] }

/-- Starts streaming in the background, gives every watch `closingRounds` turns, then closes the
feed; the start then ends too. -/
def startAndClose (f : Feed) (needed : List Value) : SessionM Feed := do
  let left ← tryCatch (do return (← SessionOn.fromValue (f.launch needed (some closingRounds)) false).1)
    fun e => do
      let _ ← f.close []
      throw e
  let f' ← f.close left
  if !left.isEmpty then
    Session.write .info feedLogger "✅ WebSocket subscriptions stopped"
  return f'

/-- Opens a feed on the named exchanges that have a cache, each with the keys the secrets give
it; a venue that cannot be opened is logged and left out. -/
def connect (caches : List Value) (names : Value) (secrets : Except Fault Value)
    (streaming : Bool) : SessionM Feed := do
  if !streaming then throw streamingMissing
  let secrets ← Session.ofExcept secrets
  let mut venues : List String := []
  for name in ← Session.ofExcept names.members do
    if !name.hashable then throw (.unhashable name.typeName)
    if !caches.any (Value.equal · name) then continue
    let cfg ← Session.ofExcept (secrets.getKey name (.dict []))
    let key ← Session.ofExcept (cfg.get "api_key" (.str ""))
    let secret ← Session.ofExcept (cfg.get "api_secret" (.str ""))
    let params : Value := .dict [(.str "apiKey", key), (.str "secret", secret),
      (.str "enableRateLimit", .bool true), (.str "newUpdates", .bool true)]
    let opened ← tryCatch (some <$> Session.connect streamModule name [params] []) fun e => do
      Session.write .error feedLogger s!"❌ Failed to create WebSocket client for {name.text}: {e.message}"
      pure none
    if let some v := opened then
      if !venues.contains v then venues := venues ++ [v]
      Session.write .info feedLogger s!"✅ WebSocket client created: {name.text}"
  return ⟨caches, venues⟩

end Feed

end Arbitrage
