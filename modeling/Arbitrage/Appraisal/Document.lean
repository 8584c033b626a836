import Arbitrage.Appraisal.Basic
import Arbitrage.Market.Document
import Arbitrage.Book.Document

namespace Arbitrage

/-- An amount as a document: a whole number as an integer, a double as a double. -/
def Amount.toDocument : Amount Float → Value
  | .whole n => .int n
  | .scalar x => .float x

def Fill.toDocument (f : Fill Float) : Value :=
  .record [("market_code", f.marketCode), ("side", .str f.side.name),
    ("notional_quote", .float f.notional), ("effective_price", .float f.price),
    ("input_amount", .float f.input), ("output_amount", .float f.output),
    ("fee_rate", .float f.feeRate), ("depth_used", .levels f.depth)]

def Appraisal.toDocument (a : Appraisal Float) : Value :=
  .record [("path_id", a.routeId), ("starting_amount", a.starting.toDocument),
    ("final_amount", a.final.toDocument), ("delta_inst", .float a.deltaInst),
    ("delta_vol", .float a.deltaVol), ("delta_slip", .float a.deltaSlip),
    ("delta_final", .float a.deltaFinal), ("legs", .list (a.fills.map Fill.toDocument))]

/-- A trace as a document: the appraisal's fields with the assets, the reason and the books. -/
def Trace.toDocument (t : Trace Float) : Value :=
  .record [("path_id", t.routeId), ("assets", t.assets),
    ("starting_amount", t.starting.toDocument), ("final_amount", t.final.toDocument),
    ("delta_inst", .float t.deltaInst), ("delta_vol", .float t.deltaVol),
    ("delta_slip", .float t.deltaSlip), ("delta_final", .float t.deltaFinal),
    ("reason", .str t.reason), ("legs", .list (t.fills.map Fill.toDocument)),
    ("orderbooks", .dict (t.books.map fun (code, b) => (code, b.toDocument)))]

def Verdict.toDocument (v : Verdict Float) : Value :=
  .record [("evaluation", (v.appraisal.map Appraisal.toDocument).getD .null),
    ("debug", (v.trace.map Trace.toDocument).getD .null)]

end Arbitrage
