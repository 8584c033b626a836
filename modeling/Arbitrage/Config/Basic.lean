import Arbitrage.Data.Value

/-!
The bot's configuration: order minimums, assets, token rules, path limits, the risk and latency
models, trade sizing, execution, fail-safes, logging switches and the scan interval.
-/

namespace Arbitrage

/-- Minimum order sizes: the least notional per quote currency (values as written), a factor
on all of them, and a factor on the first leg. -/
structure MinOrder where
  quoteMinNotional : List (Value × Value)
  minNotionalMultiplier : Float
  firstLegMultiplier : Float
  deriving Inhabited

/-- An asset's role and whether it is used. -/
structure AssetEntry where
  role : Value
  enabled : Bool
  deriving Inhabited

/-- What a token may do on a path, its tiers, and the extra edge a path through it needs. -/
structure TokenRule where
  tier : Int
  enabled : Bool
  bridge : Bool
  terminal : Bool
  volatilityTier : Int
  riskLevel : Value
  extraEdge : Float
  deriving Inhabited

/-- Limits on the paths searched. -/
structure PathRules where
  minLength : Int
  maxLength : Int
  allowRevisit : Bool
  extraLegMinEdgeImprovement : Float
  deriving Inhabited

/-- The risk model: the volatility window and sampling interval, the weight of volatility, the
slippage model and the least profit a path must show. -/
structure RiskModel where
  volatilityWindowSeconds : Float
  samplingIntervalSeconds : Float
  volRiskMultiplier : Float
  slippageTopLevels : Int
  slippageCoefficient : Float
  minProfitMargin : Float
  deriving Inhabited

/-- The latency model. -/
structure LatencyModel where
  rollingSamples : Int
  spikeStdMultiplier : Float
  defaultLegTimeSeconds : Float
  deriving Inhabited

/-- How large trades start and may grow. -/
structure TradeSizing where
  startingSizeFractions : List Float
  maxFractionOfEquityPerPath : Float
  deriving Inhabited

/-- Execution limits. -/
structure Execution where
  interLegTimeoutSeconds : Float
  maxConcurrentPaths : Int
  deriving Inhabited

/-- Conditions that stop trading. -/
structure Failsafes where
  stopOnInconsistentBalance : Bool
  maxDailyLossFraction : Float
  maxApiErrorRate : Float
  pauseAfterRateLimitSeconds : Int
  deriving Inhabited

/-- What gets logged. -/
structure LogSwitches where
  logTrades : Bool
  logPaths : Bool
  logRiskCalcs : Bool
  printDryRunActions : Bool
  logProfitableTrades : Bool
  heartbeatEnabled : Bool
  debugMode : Bool
  deriving Inhabited

/-- The whole configuration. -/
structure Config where
  dryRun : Bool
  minOrder : MinOrder
  assets : List (Value × AssetEntry)
  tokens : List (Value × TokenRule)
  paths : PathRules
  risk : RiskModel
  latency : LatencyModel
  sizing : TradeSizing
  execution : Execution
  failsafes : Failsafes
  logging : LogSwitches
  scanIntervalMs : Int
  deriving Inhabited

namespace Config

/-- The rule of the token keyed by `asset`, if the configuration has one. -/
def tokenRule? (c : Config) (asset : Value) : Option TokenRule :=
  (c.tokens.find? fun e => Value.equal e.1 asset).map (·.2)

end Config

end Arbitrage
