import Arbitrage.Appraisal.Fill
import Arbitrage.Route.Search
import Arbitrage.Log

/-!
Appraising a route: filling its legs one after the other against the books, from a starting
notional, and weighing what comes back.
-/

namespace Arbitrage

/-- The configured terms of an appraisal: the minimum multipliers of the first and of every
other leg, the profit margin, the charge for a sigma, and the extra edge an asset's token
requires, if it has a token. -/
structure Terms (α : Type) where
  firstLegMultiplier : α
  legMultiplier : α
  minProfitMargin : α
  /-- The volatility charge of a sigma as given. -/
  volCharge : Value → Except Fault α
  /-- The extra edge of an asset's token, if it has one; an asset that cannot be looked up is a
  fault. -/
  extraEdge : Value → Except Fault (Option α)

/-- The terms a configuration sets, over doubles: a sigma is charged the volatility multiplier
times it, and a token is looked up as a mapping is. -/
def Config.terms (c : Config) : Terms Float :=
  ⟨c.minOrder.firstLegMultiplier, c.minOrder.minNotionalMultiplier, c.risk.minProfitMargin,
    Value.scaledBy c.risk.volRiskMultiplier,
    fun a => if a.hashable then pure ((c.tokenRule? a).map (·.extraEdge))
      else throw (.unhashable a.typeName)⟩

/-- A route as it is appraised: its id, its legs and its assets. -/
structure Plan (α : Type) where
  routeId : Value
  legs : List (Leg α)
  assets : Value
  deriving Inhabited

def Edge.leg (e : Edge) : Leg Float := ⟨e.marketCode, e.side, e.feeRate, e.minTotal⟩

def Route.plan (r : Route) : Plan Float := ⟨.str r.id, r.edges.map Edge.leg, .list r.assets⟩

/-- An appraisal that came through: the amounts at start and end, the three deltas, the
result and the fills. -/
structure Appraisal (α : Type) where
  routeId : Value
  starting : Amount α
  final : Amount α
  deltaInst : α
  deltaVol : α
  deltaSlip : α
  deltaFinal : α
  fills : List (Fill α)

/-- The trace of an appraisal: the figures, why it ended, the fills and the books seen. -/
structure Trace (α : Type) where
  routeId : Value
  assets : Value
  starting : Amount α
  final : Amount α
  deltaInst : α
  deltaVol : α
  deltaSlip : α
  deltaFinal : α
  reason : String
  fills : List (Fill α)
  books : List (Value × Book α)

/-- The answer of an appraisal: the kept result, if any, and the trace, if asked for. -/
structure Verdict (α : Type) where
  appraisal : Option (Appraisal α)
  trace : Option (Trace α)

/-- How a walk over the legs ended: stopped with a reason, or arrived with its slippage. -/
inductive Progress (α : Type) where
  | stopped (current : Amount α) (fills : List (Fill α)) (reason : String)
  | arrived (current : Amount α) (fills : List (Fill α)) (slippage : α)

def appraisalLogger : String := "meatna.core.path_evaluator"

namespace Appraisal

variable {α : Type} [Scalar α]

/-- The book of a market code, looked up as a mapping is: a code that cannot be a key is a
fault. -/
def bookAt (books : List (Value × Book α)) (code : Value) : Except Fault (Option (Book α)) :=
  if code.hashable then pure (Value.lookup books code) else throw (.unhashable code.typeName)

/-- Whether a book can be used: both sides have levels and both best prices are positive. -/
def usable (verbose : Bool) (code : String) (b : Book α) : Logged Bool :=
  match b.bids, b.asks with
  | bid :: _, ask :: _ =>
    if bid.price ≤ 0 ∨ ask.price ≤ 0 then do
      Logged.debugIf verbose appraisalLogger
        s!"Non-positive best levels for {code} bid={Scalar.shortest bid.price} ask={Scalar.shortest ask.price}"
      pure false
    else pure true
  | _, _ => do
    Logged.debugIf verbose appraisalLogger s!"Empty orderbook for {code}"
    pure false

/-- Whether `amount` reaches a leg's minimum times the leg multiplier: directly for a buy, at
the best bid for a sell. A minimum that is not positive is always reached. -/
def reaches (t : Terms α) (verbose : Bool) (amount : Amount α) (leg : Leg α) (b : Book α) :
    Logged Bool :=
  let required := leg.minTotal * t.legMultiplier
  if required ≤ 0 then pure true
  else match leg.side with
  | .buy => pure (amount.ge required)
  | .sell =>
    let best := b.bestBid
    if best ≤ 0 then do
      Logged.debugIf verbose appraisalLogger s!"Invalid best bid for {leg.marketCode.text}"
      pure false
    else do
      let x ← Logged.ofExcept amount.toScalar
      pure (decide (required ≤ x * best))

/-- Fills the legs in turn from `current`, with the fills and slippage so far; `isFirst` marks
the route's first leg, whose minimum takes the first-leg multiplier. -/
def walk (t : Terms α) (books : List (Value × Book α)) (verbose : Bool) :
    Bool → List (Leg α) → Amount α → List (Fill α) → α → Logged (Progress α)
  | _, [], current, fills, slip => pure (.arrived current fills slip)
  | isFirst, leg :: rest, current, fills, slip => do
    let code := leg.marketCode.text
    if current.le 0 then
      Logged.debugIf verbose appraisalLogger (match current.fixed 12 with
        | .ok text => s!"Zero notional before {code} amount={text}"
        | .error f => "<format error " ++ f.category.name ++ ">")
      return .stopped current fills "Leg received zero notional"
    if !current.gt 0 then throw (.assertion s!"Zero notional entering leg {code}")
    let some book ← Logged.ofExcept (bookAt books leg.marketCode)
      | return .stopped current fills s!"missing snapshot for {code}"
    unless ← usable verbose code book do
      return .stopped current fills s!"invalid snapshot for {code}"
    unless ← reaches t verbose current leg book do
      return .stopped current fills s!"input below minimum for {code}"
    let minimum := leg.minTotal * (if isFirst then t.firstLegMultiplier else t.legMultiplier)
    match ← Logged.ofExcept (leg.fill book current minimum) with
    | .refused reason => return .stopped current fills reason
    | .filled f s =>
      Logged.debugIf verbose appraisalLogger f.logText
      let fills := fills ++ [f]
      let current : Amount α := .scalar f.output
      if current.le 0 then
        return .stopped current fills s!"non-positive output after {code}"
      let slip := slip + s
      match rest with
      | [] => return .arrived current fills slip
      | next :: _ =>
        let nextCode := next.marketCode.text
        let some nextBook ← Logged.ofExcept (bookAt books next.marketCode)
          | return .stopped current fills s!"missing snapshot for {nextCode}"
        unless ← usable verbose nextCode nextBook do
          return .stopped current fills s!"invalid snapshot for {nextCode}"
        unless ← reaches t verbose current next nextBook do
          return .stopped current fills s!"insufficient size for next leg {nextCode}"
        walk t books verbose false rest current fills slip

/-- The first five levels of every book the legs use, keyed by market code in leg order. -/
def booksSeen (legs : List (Leg α)) (books : List (Value × Book α)) :
    Except Fault (List (Value × Book α)) :=
  legs.foldlM (fun seen leg => do
    match ← bookAt books leg.marketCode with
    | some b => pure (Value.insert seen leg.marketCode (b.top 5))
    | none => pure seen) []

/-- The sigma of an asset as `sigmas` gives it: its entry, or zero without one. Sigmas that are
not true count as none; anything else that is no mapping cannot be looked up, and neither can
an asset that cannot be a key. -/
def sigmaOf (sigmas asset : Value) : Except Fault Value :=
  Value.getKey (if sigmas.truthy then sigmas else .dict []) asset (.float 0.0)

/-- The volatility charge: over the assets other than the home currency, the largest sigma,
which is the first one unless a later one is greater, charged by the terms; zero when there is
no such asset. Each sigma is looked up just before it is compared. -/
def volatilityCharge (t : Terms α) (assets sigmas : Value) : Except Fault α := do
  match (← assets.members).filter (!isHome ·) with
  | [] => pure 0
  | a :: rest =>
    let top ← rest.foldlM (fun m b => do
      let s ← sigmaOf sigmas b
      pure (if ← Value.greater s m then s else m)) (← sigmaOf sigmas a)
    t.volCharge top

/-- The largest extra edge the route's tokens require, and zero at least. -/
def extraEdge (t : Terms α) (assets : Value) : Except Fault α := do
  (← assets.members).foldlM (fun extra a => do
    match ← t.extraEdge a with
    | some e => pure (Scalar.keepMax extra e)
    | none => pure extra) 0

end Appraisal

/-- A trace from its figures; the result is the gain less the two charges. -/
def Trace.make {α : Type} [Scalar α] (p : Plan α) (starting final : Amount α)
    (fills : List (Fill α))
    (reason : String) (deltaInst deltaVol deltaSlip : α) (books : List (Value × Book α)) :
    Trace α :=
  ⟨p.routeId, p.assets, starting, final, deltaInst, deltaVol, deltaSlip,
    deltaInst - deltaVol - deltaSlip, reason, fills, books⟩

namespace Plan

variable {α : Type} [Scalar α]

/-- Appraises a route from `start` against the keyed books, with the sigmas of its assets;
`keep` asks for the trace and `verbose` for debug lines. -/
def appraise (t : Terms α) (p : Plan α) (start : Amount α) (books : List (Value × Book α))
    (sigmas : Value) (keep verbose : Bool) : Logged (Verdict α) := do
  let seen ← if keep then Logged.ofExcept (Appraisal.booksSeen p.legs books) else pure []
  let stop := fun (current : Amount α) (fills : List (Fill α)) (reason : String) =>
    (⟨none, if keep then some (Trace.make p start current fills reason 0 0 0 seen) else none⟩ :
      Verdict α)
  if let some first := p.legs.head? then
    let required := first.minTotal * t.firstLegMultiplier
    if start.lt required then
      let shown ← Logged.ofExcept (start.fixed 8)
      return stop start []
        s!"starting notional {shown} below first leg minimum {Scalar.fixed 8 required}"
  match ← Appraisal.walk t books verbose true p.legs start [] 0 with
  | .stopped current fills reason => return stop current fills reason
  | .arrived current fills slip =>
    let deltaInst := (← Logged.ofExcept (current.ratio start)) - 1
    let deltaVol ← Logged.ofExcept (Appraisal.volatilityCharge t p.assets sigmas)
    let minProfit := t.minProfitMargin + (← Logged.ofExcept (Appraisal.extraEdge t p.assets))
    let deltaFinal := deltaInst - deltaVol - slip
    let trace := if keep then
      some (Trace.make p start current fills "evaluated" deltaInst deltaVol slip seen) else none
    if deltaFinal ≤ minProfit then return ⟨none, trace⟩
    return ⟨some ⟨p.routeId, start, current, deltaInst, deltaVol, slip, deltaFinal, fills⟩, trace⟩

end Plan

end Arbitrage
