import Arbitrage.Market.Graph

/-!
Routes: the trade cycles that start and end in USD.
-/

namespace Arbitrage

def homeAsset : Value := .str "USD"

def isHome (a : Value) : Bool := Value.equal a homeAsset

/-- A route: its edges in order, and the assets it passes, starting with USD. -/
structure Route where
  id : String
  edges : List Edge
  assets : List Value
  deriving Inhabited

namespace Route

/-- Whether the walk may step along `e`: a step to USD always may; a step to another asset
needs its token enabled and usable as bridge or terminal, and not yet visited unless revisits
are allowed; after a non-bridge token only a step to USD may follow. -/
def admits (c : Config) (visited : List Value) (mustReturn : Bool) (e : Edge) : Bool :=
  if mustReturn && !isHome e.toAsset then false
  else if isHome e.toAsset then true
  else
    match c.tokenRule? e.toAsset with
    | none => false
    | some r =>
      r.enabled && (r.terminal || r.bridge) &&
        (c.paths.allowRevisit || !visited.any (Value.equal · e.toAsset))

/-- Whether stepping to `asset` obliges the next step to return to USD: it is a token that
may not be a bridge. -/
def mustReturnAfter (c : Config) (asset : Value) : Bool :=
  if isHome asset then false
  else match c.tokenRule? asset with
    | some r => !r.bridge
    | none => false

/-- All edge sequences that complete a route from `current`, after the edges `trail` and with
the non-USD assets `visited` on it; `fuel` is the number of edges still allowed. -/
def extend (g : Graph) (c : Config) : Nat → Value → List Edge → List Value → Bool →
    List (List Edge)
  | 0, _, _, _, _ => []
  | fuel + 1, current, trail, visited, mustReturn =>
    (g.outEdges current).flatMap fun e =>
      if !admits c visited mustReturn e then []
      else
        let trail' := trail ++ [e]
        if isHome e.toAsset && c.paths.minLength ≤ (trail'.length : Int) then [trail']
        else if (trail'.length : Int) < c.paths.maxLength then
          let visited' := if isHome e.toAsset then visited else e.toAsset :: visited
          extend g c fuel e.toAsset trail' visited' (mustReturnAfter c e.toAsset)
        else []

/-- The routes of a graph under a configuration, numbered `path_1`, `path_2`, … in search
order. -/
def all (g : Graph) (c : Config) : List Route :=
  let found := extend g c c.paths.maxLength.toNat homeAsset [] [] false
  (found.zipIdx 1).map fun (es, i) =>
    { id := s!"path_{i}", edges := es, assets := homeAsset :: es.map (·.toAsset) }

/-- The distinct market codes the routes use, gathered into a set and sorted. -/
def marketsInUse (rs : List Route) : Except Fault (List Value) :=
  do Value.sorted (← Value.setOfAdded (rs.flatMap fun r => r.edges.map (·.marketCode)))

/-- The distinct assets the routes pass, gathered into a set and sorted. -/
def assetsInUse (rs : List Route) : Except Fault (List Value) :=
  do Value.sorted (← Value.setOfAdded (rs.flatMap (·.assets)))

end Route

end Arbitrage
