import Arbitrage.Number.Scalar

namespace Arbitrage

/-- One level of a book: a price and the size offered at it. -/
structure Level (α : Type) where
  price : α
  size : α
  deriving Inhabited

/-- The bids and asks of a market, best first. -/
structure Book (α : Type) where
  bids : List (Level α)
  asks : List (Level α)
  deriving Inhabited

namespace Book

variable {α : Type} [Scalar α]

def bestBid (b : Book α) : α := (b.bids.head?.map (·.price)).getD 0

def bestAsk (b : Book α) : α := (b.asks.head?.map (·.price)).getD 0

def top (n : Nat) (b : Book α) : Book α := ⟨b.bids.take n, b.asks.take n⟩

end Book

end Arbitrage
