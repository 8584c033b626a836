import Arbitrage.Config.Basic
import Arbitrage.Data.Coerce
import Arbitrage.Yaml.Value

namespace Arbitrage

open Value

def defaultQuoteMinimums : List (String × Float) :=
  [("USD", 5.0), ("USDT", 5.0), ("USDC", 5.0), ("BTC", 0.0002)]

def withDefault (kvs : List (Value × Value)) (k : String) (x : Float) : List (Value × Value) :=
  if (lookup kvs (.str k)).isSome then kvs else kvs ++ [(.str k, .float x)]

def doubleField (section_ : Value) (name : String) (dflt : Value) : Except Fault Float := do
  (← section_.get name dflt).toDouble

def intField (section_ : Value) (name : String) (dflt : Value) : Except Fault Int := do
  (← section_.get name dflt).toInt

def flagField (section_ : Value) (name : String) (dflt : Bool) : Except Fault Bool := do
  return (← section_.get name (.bool dflt)).truthy

/-- The token rule of one token's mapping. -/
def TokenRule.ofValue (cfg : Value) : Except Fault TokenRule := do
  let tier ← intField cfg "tier" (.int 3)
  let enabled ← flagField cfg "enabled" false
  let bridge ← flagField cfg "allowed_as_bridge" false
  let terminal ← flagField cfg "allowed_as_terminal_asset" false
  let volatilityTier ← intField cfg "volatility_tier" (.int 3)
  let riskLevel ← cfg.get "risk_level" .null
  let extraEdge ← doubleField cfg "extra_edge_required" (.float 0.0)
  pure { tier, enabled, bridge, terminal, volatilityTier, riskLevel, extraEdge }

/-- The configuration of a document; a document that is not true (empty, null, zero, false,
an empty list) reads as an empty mapping. -/
def Config.ofDocument (doc : Value) : Except Fault Config := do
  let raw := if doc.truthy then doc else .dict []
  let empty : Value := .dict []
  let dryRun ← flagField (← raw.get "bot_mode" empty) "dry_run" true
  let mo ← raw.get "min_order" empty
  let qmn ← (← mo.get "quote_min_notional" empty).toDict
  let qmn := defaultQuoteMinimums.foldl (fun acc (k, x) => withDefault acc k x) qmn
  let minNotionalMultiplier ← doubleField mo "min_notional_multiplier" (.float 1.0)
  let firstLegMultiplier ← doubleField mo "first_leg_multiplier" (.float 1.0)
  let assets ← (← (← raw.get "assets" empty).entries).mapM fun (a, cfg) => do
    let role ← cfg.get "role" (.str "")
    let enabled ← flagField cfg "enabled" false
    pure (a, ({ role, enabled } : AssetEntry))
  let tokens ← (← (← raw.get "tokens" empty).entries).mapM fun (n, cfg) => do
    pure (n, ← TokenRule.ofValue cfg)
  let p ← raw.get "paths" empty
  let paths : PathRules :=
    { minLength := ← intField p "min_length" (.int 2)
      maxLength := ← intField p "max_length" (.int 4)
      allowRevisit := ← flagField p "allow_revisit_nodes" false
      extraLegMinEdgeImprovement := ← doubleField p "extra_leg_min_edge_improvement" (.float 0.0) }
  let r ← raw.get "risk_model" empty
  let risk : RiskModel :=
    { volatilityWindowSeconds := ← doubleField r "volatility_window_seconds" (.int 60)
      samplingIntervalSeconds := ← doubleField r "volatility_sampling_interval_seconds" (.int 1)
      volRiskMultiplier := ← doubleField r "vol_risk_multiplier" (.float 0.5)
      slippageTopLevels := ← intField r "slippage_top_levels" (.int 3)
      slippageCoefficient := ← doubleField r "slippage_coefficient" (.float 0.00001)
      minProfitMargin := ← doubleField r "min_profit_margin" (.float 0.0) }
  let l ← raw.get "latency_model" empty
  let latency : LatencyModel :=
    { rollingSamples := ← intField l "rolling_samples" (.int 30)
      spikeStdMultiplier := ← doubleField l "spike_std_multiplier" (.float 3.0)
      defaultLegTimeSeconds := ← doubleField l "default_leg_time_seconds" (.float 0.2) }
  let t ← raw.get "trade_sizing" empty
  let fractions ← (← (← t.get "starting_size_fractions" (.list [])).members).mapM toDouble
  let sizing : TradeSizing :=
    { startingSizeFractions := fractions
      maxFractionOfEquityPerPath := ← doubleField t "max_fraction_of_equity_per_path" (.float 1.0) }
  let e ← raw.get "execution" empty
  let execution : Execution :=
    { interLegTimeoutSeconds := ← doubleField e "inter_leg_timeout_seconds" (.float 1.0)
      maxConcurrentPaths := ← intField e "max_concurrent_paths" (.int 1) }
  let fs ← raw.get "failsafes" empty
  let failsafes : Failsafes :=
    { stopOnInconsistentBalance := ← flagField fs "stop_on_inconsistent_balance" true
      maxDailyLossFraction := ← doubleField fs "max_daily_loss_fraction" (.float 0.03)
      maxApiErrorRate := ← doubleField fs "max_api_error_rate" (.float 0.05)
      pauseAfterRateLimitSeconds := ← intField fs "pause_after_rate_limit_seconds" (.int 10) }
  let lg ← raw.get "logging" empty
  let logging : LogSwitches :=
    { logTrades := ← flagField lg "log_trades" true
      logPaths := ← flagField lg "log_paths" false
      logRiskCalcs := ← flagField lg "log_risk_calcs" true
      printDryRunActions := ← flagField lg "print_dry_run_actions" true
      logProfitableTrades := ← flagField lg "log_profitable_trades" true
      heartbeatEnabled := ← flagField lg "heartbeat_enabled" true
      debugMode := ← flagField lg "debug_mode" true }
  let sc ← raw.get "scanner" empty
  let scanIntervalMs ← intField sc "scan_interval_ms" (.int 100)
  pure { dryRun, minOrder := { quoteMinNotional := qmn, minNotionalMultiplier, firstLegMultiplier },
         assets, tokens, paths, risk, latency, sizing, execution, failsafes, logging,
         scanIntervalMs }

/-- The configuration every field of which has its default. -/
def Config.standard : Config :=
  match Config.ofDocument .null with
  | .ok c => c
  | .error _ => Inhabited.default

/-- Reads the configuration file at `path`, whose text is `contents` or which is missing. -/
def Config.loadFile (path : String) (contents : Option String) : Except Fault Config := do
  match contents with
  | none => throw (.fileMissing s!"Config file not found: {path}")
  | some text => Config.ofDocument (← Value.ofYaml text)

/-- What a path names: nothing, a directory, or a file with its text. -/
inductive FileEntry where
  | missing
  | directory
  | file (text : String)
  deriving Inhabited

/-- The root and the parts of a path. A path that starts with exactly two slashes keeps both as
its root, any other number of leading slashes is the root `/`; the parts are what the slashes
separate, empty parts and `.` left out. -/
def pathParts (p : String) : String × List String :=
  let rel := String.ofList (p.toList.dropWhile (· == '/'))
  let leading := p.length - rel.length
  let root := if leading == 0 then "" else if leading == 2 then "//" else "/"
  (root, (rel.splitOn "/").filter fun x => x != "" && x != ".")

/-- A path in its normal form: its root followed by its parts joined by slashes, or `.` when it
has neither. -/
def normalPath (p : String) : String :=
  let (root, parts) := pathParts p
  match root ++ "/".intercalate parts with
  | "" => "."
  | q => q

/-- Whether a path names a directory that is always there: the working directory or the root,
or one of their ancestors. -/
def standingDirectory (p : String) : Bool :=
  (pathParts p).2.all (· == "..")

/-- Reads the secrets file at `path`: its document, or an empty mapping for an empty one. The
path is reported in its normal form. -/
def loadSecrets (path : String) (entry : FileEntry) : Except Fault Value := do
  match entry with
  | .missing => throw (.fileMissing s!"secrets.yaml not found at: {normalPath path}")
  | .directory => throw (.isDirectory (normalPath path))
  | .file text =>
    let doc ← Value.ofYaml text
    pure (if doc.truthy then doc else .dict [])

end Arbitrage
