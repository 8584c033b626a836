import Arbitrage.Route.Search
import Arbitrage.Config.Document

namespace Arbitrage

/-- An edge as a document; its direction is its side and both of its fees are its fee rate. -/
def Edge.toDocument (e : Edge) : Value :=
  .record [("market_code", e.marketCode), ("from_asset", e.fromAsset),
    ("to_asset", e.toAsset), ("side", .str e.side.name), ("fee_rate", .float e.feeRate),
    ("min_total", .float e.minTotal), ("is_reversed", .bool e.isReversed),
    ("exchange", .str e.exchange), ("direction", .str e.side.name),
    ("bid_fee", .float e.feeRate), ("ask_fee", .float e.feeRate)]

def Value.texts (xs : List String) : Value := .list (xs.map .str)

/-- A route as a document: its id, its assets and its edges as
`[market_code, side, from_asset, to_asset]`. -/
def Route.toDocument (r : Route) : Value :=
  .record [("path_id", .str r.id), ("assets", .list r.assets),
    ("edges", .list (r.edges.map fun e =>
      .list [e.marketCode, .str e.side.name, e.fromAsset, e.toAsset]))]

end Arbitrage
