import Arbitrage.Exchange.Session
import Arbitrage.Data.Access
import Arbitrage.Book.Cache

namespace Arbitrage

def restModule : String := "ccxt.async_support"

def streamModule : String := "ccxt.pro"

def marketCode (quote base : String) : String := s!"{quote}-{base}"

/-- The quote and base of a market code, if its dashes split it into exactly two parts. -/
def codeParts (code : String) : Option (String × String) :=
  match (code.toList.splitOn '-').map String.ofList with
  | [q, b] => some (q, b)
  | _ => none

/-- A market a venue lists: its code `quote-base`, and its base and quote as the venue gives
them. -/
structure Listing where
  code : String
  base : Value
  quote : Value
  deriving Inhabited

namespace Listing

/-- The listings of a market table, entry by entry, passing over entries without a true base
and quote. -/
def ofTable (table : Value) : Except Fault (List Listing) := do
  let mut out : List Listing := []
  for (_, info) in ← table.entries do
    let base ← info.get "base" .null
    let quote ← info.get "quote" .null
    if base.truthy && quote.truthy then
      out := out ++ [⟨marketCode quote.text base.text, base, quote⟩]
  return out

/-- Listings keyed by code: a code keeps the place where it first appears and the listing that
appears last. -/
def keyed (ls : List Listing) : List Listing :=
  ls.foldl (fun acc l =>
    if acc.any (·.code == l.code) then acc.map fun x => if x.code == l.code then l else x
    else acc ++ [l]) []

end Listing

/-- The venue symbol `base/quote` of the quote and base of a market code. -/
def symbolOf (quote base : String) : String := s!"{base}/{quote}"

/-- The venue symbol of a market code `quote-base`; a code that does not split into a quote and
a base at its dash is a fault. -/
def symbolOfCode (code : Value) : Except Fault String := do
  let (q, b) ← code.splitPair '-'
  return symbolOf q b

/-- The market code of a venue symbol `base/quote`, if the symbol splits into a base and a
quote at its slash. -/
def codeOfSymbol (symbol : String) : Option String :=
  match (symbol.toList.splitOn '/').map String.ofList with
  | [base, quote] => some (marketCode quote base)
  | _ => none

/-- A raw book side: every member a pair read as a price and a size. -/
def rawLevels (side : Value) : Except Fault (List (Level Float)) := do
  let mut out : List (Level Float) := []
  for item in ← side.members do
    let (p, q) ← item.unpackPair
    let price ← p.toDouble
    let size ← q.toDouble
    out := out ++ [⟨price, size⟩]
  return out

/-- The last trade of a market: its time stamp and price. -/
structure Ticker where
  market : String
  timestamp : Int
  price : Float
  deriving Inhabited

end Arbitrage
