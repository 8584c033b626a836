import Arbitrage.Appraisal.Basic
import Arbitrage.Book.Cache
import Arbitrage.Data.Access
import Arbitrage.Text.Case

/-!
The start-up self-test: a round trip from one asset to another and back, appraised against the books
at hand, whose gain must lie in a safe range.
-/

namespace Arbitrage

/-- The failure of looking up several markets in a cache without naming the exchange. -/
def pickMisuse : Fault :=
  .badCall "OrderbookCache.snapshot_many() missing 1 required positional argument: 'markets'"

/-- A round trip to test: its label, the asset it starts from and the one it passes, the
balance available, the largest trade, the order minimum, and the band its gain should lie
in. Each is a document value as given. -/
structure Roundtrip where
  label : Value
  origin : Value
  via : Value
  available : Value
  maxTrade : Value
  minQuote : Value
  band : Value

def wonRoundtripLabel : String := "KRW→USDC→KRW"

/-- A text in lower case; any other value has no lower case. -/
def lowered (v : Value) : Except Fault String :=
  match v with
  | .str s => pure (Text.lower s)
  | v => throw (.noAttribute v.typeName "lower")

namespace Roundtrip

/-- Runs a round trip against a graph and, when the books come from a single mapping, those
books; `logger` names the lines it writes. -/
def run (c : Config) (g : Graph) (books : Option (List (Value × Book Float))) (logger : String)
    (verbose : Bool) (t : Roundtrip) : Logged Unit := do
  let warn := fun (m : String) => Logged.write .warning logger m
  let note := fun (m : String) => Logged.write .info logger m
  let label := t.label.text
  let some forward := g.findEdge? t.origin t.via
    | warn s!"Self-test {label} skipped: Missing edge {t.origin.text}->{t.via.text}"
  let some backward := g.findEdge? t.via t.origin
    | warn s!"Self-test {label} skipped: Missing edge {t.via.text}->{t.origin.text}"
  let quadruple ← Logged.ofExcept (t.minQuote.times 4)
  let start ← Logged.ofExcept (Value.smallest [t.available, t.maxTrade, quadruple])
  if ← Logged.ofExcept (Value.lessEq start (.int 0)) then
    warn s!"Self-test {label} skipped: insufficient starting capital"
    return
  let pair := [forward.marketCode, backward.marketCode]
  if let some m := pair.find? (!·.hashable) then throw (.unhashable m.typeName)
  let markets := Value.addOrder pair
  let some shelf := books | throw pickMisuse
  let found := markets.filterMap fun m => (Value.lookup shelf m).map (m, ·)
  if found.length != markets.length then
    let missing := Value.addOrder (markets.filter fun m => !found.any (Value.equal ·.1 m))
    let listed ← Logged.ofExcept (do Value.joinTexts ", " (← Value.sorted missing))
    warn s!"Self-test {label} skipped: missing snapshots for {listed}"
    return
  let amount ← Logged.ofExcept start.toAmount
  let originLow ← Logged.ofExcept (lowered t.origin)
  let viaLow ← Logged.ofExcept (lowered t.via)
  let plan : Plan Float := ⟨.str s!"self_test_{originLow}_{viaLow}",
    [forward.leg, backward.leg], .list [t.origin, t.via, t.origin]⟩
  let verdict ← plan.appraise c.terms amount found .null true verbose
  let delta ← match verdict.appraisal, verdict.trace with
    | some a, _ => pure a.deltaInst
    | none, some tr => do
      note s!"Self-test {label} lacked profitable result (reason={tr.reason}); using debug delta."
      pure tr.deltaInst
    | none, none => throw (.stopped s!"Self-test {label} failed: no evaluation data")
  let low ← Logged.ofExcept (t.band.atIndex 0)
  let high ← Logged.ofExcept (t.band.atIndex 1)
  Logged.writeFilled .info logger "Self-test %s Δinst=%.4f expected_band=[%.4f, %.4f]"
    [t.label, .float delta, low, high]
  if Value.equal t.label (.str wonRoundtripLabel) then
    if let some b := Value.lookup found forward.marketCode then
      if let (bid :: _, ask :: _) := (b.bids, b.asks) then
        let mid := (bid.price + ask.price) / 2.0
        let half := if 0.0 < mid then (ask.price - bid.price) / mid / 2.0 else 0.0
        let implied := -(2.0 * half + 2.0 * forward.feeRate)
        note s!"  implied Δinst≈{Decimal.fixed 4 implied} (half_spread={Decimal.fixed 6 half} fee={Decimal.fixed 6 forward.feeRate})"
  if 0.0 < delta ∨ delta < -0.03 then
    throw (.stopped s!"Self-test {label} Δinst {Decimal.fixed 4 delta} outside safe [-0.03, 0]. Aborting.")
  let inBand ← Logged.ofExcept do
    if ← Value.lessEq (← t.band.atIndex 0) (.float delta) then
      Value.lessEq (.float delta) (← t.band.atIndex 1)
    else pure false
  if !inBand then
    Logged.writeFilled .warning logger "Self-test %s Δinst %.4f outside expected band [%.4f, %.4f]"
      [t.label, .float delta, low, high]

end Roundtrip

/-- The two standard round trips, won through USDC and USDC through bitcoin, sized by the
balances and the trade limits. -/
def selfTest (c : Config) (g : Graph) (books : Option (List (Value × Book Float)))
    (balances sizing : Record) (logger : String) (verbose : Bool) : Logged Unit := do
  let minimum := fun (quote : String) (fallback : Float) =>
    (Value.lookup c.minOrder.quoteMinNotional (.str quote)).getD (.float fallback)
  let krw ← Logged.ofExcept (balances.attr "krw")
  let maxKrw ← Logged.ofExcept (sizing.attr "max_krw_per_trade")
  Roundtrip.run c g books logger verbose
    ⟨.str wonRoundtripLabel, .str "KRW", .str "USDC", krw, maxKrw, minimum "KRW" 5000.0,
      .tuple [.float (-0.0045), .float (-0.002)]⟩
  let usdt ← Logged.ofExcept (balances.attr "usdt")
  let maxUsdt ← Logged.ofExcept (sizing.attr "max_usdt_per_trade")
  Roundtrip.run c g books logger verbose
    ⟨.str "USDC→BTC→USDC", .str "USDC", .str "BTC", usdt, maxUsdt, minimum "USDT" 5.0,
      .tuple [.float (-0.03), .float (-0.0001)]⟩

end Arbitrage
