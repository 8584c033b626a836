import Arbitrage.Appraisal.Basic
import Arbitrage.Book.Cache
import Arbitrage.Volatility
import Arbitrage.Data.SetOrder

/-!
The scanner: each run appraises every route whose books are all at hand, starting from the summed
USDC balance, and remembers the best appraisal it has ever seen.
-/

namespace Arbitrage

/-- The best appraisal seen: its route's id and assets, and the appraisal. -/
structure Best where
  routeId : String
  assets : List Value
  appraisal : Appraisal Float

/-- What the scanner remembers across runs: the best final delta and the appraisal that set
it. -/
structure Scanner where
  bestDelta : Float
  best : Option Best

/-- What a run reports. -/
structure ScanReport where
  evaluated : Nat
  opportunities : Nat
  best : Option Best

/-- What a run sees: the configuration, the routes, the caches by exchange, the USDC
balances and, if attached, the volatility windows. -/
structure Scene where
  config : Config
  routes : List Route
  caches : List (String × BookCache)
  balances : List (String × Value)
  volatility : Option Volatility

/-- Work of the scanner: it changes the scanner and writes log lines, and a failure keeps both
changes made so far. -/
abbrev Scanning := ExceptT Fault (StateT Scanner (StateM (Array LogLine)))

def scannerLogger : String := "meatna.core.arbitrage_scanner"

namespace Scanner

def initial : Scanner := ⟨-1.0 / 0.0, none⟩

def logged {β : Type} (x : Logged β) : Scanning β := ExceptT.mk (StateT.lift x)

/-- Takes an appraisal into account: it becomes the best when its final delta is strictly
greater than the best so far. -/
def consider (s : Scanner) (r : Route) (a : Appraisal Float) : Scanner :=
  if a.deltaFinal ≤ s.bestDelta then s else ⟨a.deltaFinal, some ⟨r.id, r.assets, a⟩⟩

/-- The books found so far with the book of one more leg, from the cache of the leg's exchange
and keyed by market code; `none` once some leg's exchange has no cache or its cache has no book
of the market, after which no further leg is looked up. -/
def addLegBook (caches : List (String × BookCache)) (acc : Option (List (Value × Book Float)))
    (e : Edge) : Except Fault (Option (List (Value × Book Float))) := do
  let some books := acc | pure none
  let some cache := (caches.find? (·.1 == e.exchange)).map (·.2) | pure none
  let some s ← cache.find? e.marketCode | pure none
  if e.marketCode.hashable then pure (some (Value.insert books e.marketCode s.book))
  else throw (.unhashable e.marketCode.typeName)

/-- The books of the legs of a route, or `none` when some leg's book is not at hand. -/
def booksFor (caches : List (String × BookCache)) (r : Route) :
    Except Fault (Option (List (Value × Book Float))) :=
  r.edges.foldlM (addLegBook caches) (some [])

/-- The sigmas of the routes' assets, taken in the order of a set of them, when volatility is
attached; the first asset whose sigma fails gives the fault. -/
def sigmas (v : Scene) : Except Fault Value :=
  match v.volatility with
  | none => pure (.dict [])
  | some vol => do
    let assets := Value.addOrder (v.routes.flatMap (·.assets))
    return .dict (← assets.mapM fun a => return (a, .float (← vol.sigmaAt v.config a)))

def startingBalance (v : Scene) : Except Fault Value := Value.sum (v.balances.map (·.2))

/-- Appraises the routes in turn from `start`, counting the routes whose books are all at hand
and those whose appraisal came through; each that came through is considered for the best. -/
def sweep (v : Scene) (start : Amount Float) (sigmas : Value) (verbose : Bool) :
    List Route → Nat → Nat → Scanning (Nat × Nat)
  | [], evaluated, found => pure (evaluated, found)
  | r :: rest, evaluated, found => do
    match ← MonadExcept.ofExcept (booksFor v.caches r) with
    | none => sweep v start sigmas verbose rest evaluated found
    | some books =>
      let verdict ← logged (r.plan.appraise v.config.terms start books sigmas false verbose)
      match verdict.appraisal with
      | some a =>
        modify (·.consider r a)
        sweep v start sigmas verbose rest (evaluated + 1) (found + 1)
      | none => sweep v start sigmas verbose rest (evaluated + 1) found

/-- What a run works out before it appraises: the summed balance as the starting amount and
the sigmas, or nothing when the balance is not positive. -/
def prepare (v : Scene) : Except Fault (Option (Amount Float × Value)) := do
  let start ← startingBalance v
  if ← Value.lessEq start (.int 0) then return none
  let start ← start.toAmount
  return some (start, ← sigmas v)

/-- One run over the routes. -/
def run (v : Scene) (verbose : Bool) : Scanning (Option ScanReport) := do
  if let some (ex, _) := v.caches.find? (!·.2.hasData) then
    logged (Logged.write .info scannerLogger s!"Waiting for initial orderbook for {ex}...")
    return none
  let some (start, sigmas) ← MonadExcept.ofExcept (prepare v) | return none
  let (evaluated, found) ← sweep v start sigmas verbose v.routes 0 0
  return some ⟨evaluated, found, (← get).best⟩

end Scanner

end Arbitrage
