import Arbitrage.Book.Cache
import Arbitrage.Config.Document

namespace Arbitrage

def Level.toDocument (l : Level Float) : Value := .list [.float l.price, .float l.size]

def Value.levels (ls : List (Level Float)) : Value := .list (ls.map Level.toDocument)

def Book.toDocument (b : Book Float) : Value :=
  .record [("bids", .levels b.bids), ("asks", .levels b.asks)]

/-- A stored snapshot as `{exchange, market, bids, asks, timestamp_ms}`. -/
def Snapshot.toDocument (s : Snapshot) : Value :=
  .record [("exchange", s.exchange), ("market", s.market),
    ("bids", .levels s.book.bids), ("asks", .levels s.book.asks), ("timestamp_ms", s.timestamp)]

end Arbitrage
