import Arbitrage.Book.Basic
import Arbitrage.Data.Access
import Arbitrage.Data.Order
import Arbitrage.Data.Text
import Arbitrage.Log

/-!
The order-book cache: the latest book of each market, keyed, in the order the keys were first
stored.
-/

namespace Arbitrage

/-- A stored book: its exchange and market, its levels and its time stamp as given. -/
structure Snapshot where
  exchange : Value
  market : Value
  book : Book Float
  timestamp : Value
  deriving Inhabited

/-- The cache: whether it serves a single exchange, and its keyed books. -/
structure BookCache where
  single : Bool
  books : List (Value × Snapshot)
  deriving Inhabited

def cacheLogger : String := "meatna.core.orderbook_cache"

/-- The failure of handing a fresh book to the store with one argument instead of three. -/
def storeMisuse : Fault :=
  .badCall "OrderbookCache.update_snapshot() missing 2 required positional arguments: 'market' and 'orderbook'"

/-- The two parts of a pair: a list, tuple, text or mapping of exactly two members. -/
def Value.unpackPair (v : Value) : Except Fault (Value × Value) := do
  let xs ← match v with
    | .list _ | .tuple _ | .str _ | .dict _ => v.members
    | _ => throw (.notUnpackable v.typeName)
  match xs with
  | [a, b] => pure (a, b)
  | _ => if xs.length < 2 then throw (.tooFewToUnpack 2 xs.length) else throw (.tooManyToUnpack 2)

/-- The levels of a raw side whose price and size are both above zero, in the given order. -/
def positiveLevels (raw : Value) : Except Fault (List (Level Float)) := do
  let mut out : List (Level Float) := []
  for item in ← raw.members do
    let (p, q) ← item.unpackPair
    if ← Value.greater p (.int 0) then
      if ← Value.greater q (.int 0) then
        out := out ++ [⟨← p.toDouble, ← q.toDouble⟩]
  return out

namespace BookCache

def empty (single : Bool) : BookCache := ⟨single, []⟩

/-- Stores a book under a key, in the place of an equal key when there is one. -/
def store (c : BookCache) (key : Value) (s : Snapshot) : Except Fault BookCache :=
  if key.hashable then pure { c with books := Value.insert c.books key s }
  else throw (.unhashable key.typeName)

def atKey? (c : BookCache) (key : Value) : Except Fault (Option Snapshot) :=
  if key.hashable then pure (Value.lookup c.books key) else throw (.unhashable key.typeName)

/-- The book of a market on an exchange, keyed by the text `exchange.market`. -/
def get? (c : BookCache) (exchange market : Value) : Option Snapshot :=
  Value.lookup c.books (.str s!"{exchange.text}.{market.text}")

/-- The text after the first `::` of a market code, or the whole code without one. -/
def bareCode (market : String) : String :=
  match Text.splitFirst market "::" with
  | some (_, rest) => rest
  | none => market

/-- The book of a market: in a single-exchange cache, the book keyed by its code, cut after the
first `::` when it holds one; otherwise the first stored book of a market equal to it. -/
def find? (c : BookCache) (market : Value) : Except Fault (Option Snapshot) := do
  if c.single then
    if ← market.contains (.str "::") then
      match market with
      | .str s => c.atKey? (.str (bareCode s))
      | v => throw (.noAttribute v.typeName "split")
    else c.atKey? market
  else pure ((c.books.find? fun e => Value.equal e.2.market market).map (·.2))

/-- The stored books of an exchange's markets, keyed by market as a mapping keys them. -/
def pick (c : BookCache) (exchange : Value) (markets : List Value) :
    Except Fault (List (Value × Snapshot)) :=
  markets.foldlM (fun acc m =>
    match c.get? exchange m with
    | some s => if m.hashable then pure (Value.insert acc m s) else throw (.unhashable m.typeName)
    | none => pure acc) []

def keys (c : BookCache) : List Value := c.books.map (·.1)

def hasData (c : BookCache) : Bool := !c.books.isEmpty

/-- The positive bids and asks of a raw book, and its time stamp as given. -/
def readRaw (raw : Value) : Except Fault (List (Level Float) × List (Level Float) × Value) := do
  let rawBids ← raw.get "bids" (.list [])
  let rawAsks ← raw.get "asks" (.list [])
  let stamp ← raw.get "timestamp" (.int 0)
  return (← positiveLevels rawBids, ← positiveLevels rawAsks, stamp)

/-- Reads a fresh raw book of `market` on `exchange`. Nothing happens for an empty book or one
without a positive bid and a positive ask (the latter logged when `verbose`); any other book
fails when it is handed to the store. -/
def ingest (verbose : Bool) (exchange market raw : Value) : Logged Unit := do
  if !raw.truthy then return
  let (bids, asks, stamp) ← Logged.ofExcept (readRaw raw)
  if bids.isEmpty ∨ asks.isEmpty then
    Logged.debugIf verbose cacheLogger
      s!"Skipping {exchange.text}.{market.text} — no positive bids/asks"
    return
  let _ ← Logged.ofExcept (if stamp.truthy then stamp else .int 0).toInt
  throw storeMisuse

end BookCache

end Arbitrage
