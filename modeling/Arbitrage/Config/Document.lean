import Arbitrage.Config.Basic

namespace Arbitrage

def Value.record (fields : List (String × Value)) : Value :=
  .dict (fields.map fun (k, v) => (.str k, v))

def TokenRule.toDocument (r : TokenRule) : Value :=
  .record [("tier", .int r.tier), ("enabled", .bool r.enabled),
    ("allowed_as_bridge", .bool r.bridge), ("allowed_as_terminal_asset", .bool r.terminal),
    ("volatility_tier", .int r.volatilityTier), ("risk_level", r.riskLevel),
    ("extra_edge_required", .float r.extraEdge)]

def Config.toDocument (c : Config) : Value :=
  .record [
    ("bot_mode", .record [("dry_run", .bool c.dryRun)]),
    ("min_order", .record [("quote_min_notional", .dict c.minOrder.quoteMinNotional),
      ("min_notional_multiplier", .float c.minOrder.minNotionalMultiplier),
      ("first_leg_multiplier", .float c.minOrder.firstLegMultiplier)]),
    ("assets", .dict (c.assets.map fun (k, a) =>
      (k, .record [("role", a.role), ("enabled", .bool a.enabled)]))),
    ("tokens", .dict (c.tokens.map fun (k, r) => (k, r.toDocument))),
    ("paths", .record [("min_length", .int c.paths.minLength),
      ("max_length", .int c.paths.maxLength),
      ("allow_revisit_nodes", .bool c.paths.allowRevisit),
      ("extra_leg_min_edge_improvement", .float c.paths.extraLegMinEdgeImprovement)]),
    ("risk_model", .record [
      ("volatility_window_seconds", .float c.risk.volatilityWindowSeconds),
      ("volatility_sampling_interval_seconds", .float c.risk.samplingIntervalSeconds),
      ("vol_risk_multiplier", .float c.risk.volRiskMultiplier),
      ("slippage_top_levels", .int c.risk.slippageTopLevels),
      ("slippage_coefficient", .float c.risk.slippageCoefficient),
      ("min_profit_margin", .float c.risk.minProfitMargin)]),
    ("latency_model", .record [("rolling_samples", .int c.latency.rollingSamples),
      ("spike_std_multiplier", .float c.latency.spikeStdMultiplier),
      ("default_leg_time_seconds", .float c.latency.defaultLegTimeSeconds)]),
    ("trade_sizing", .record [
      ("starting_size_fractions", .list (c.sizing.startingSizeFractions.map .float)),
      ("max_fraction_of_equity_per_path", .float c.sizing.maxFractionOfEquityPerPath)]),
    ("execution", .record [
      ("inter_leg_timeout_seconds", .float c.execution.interLegTimeoutSeconds),
      ("max_concurrent_paths", .int c.execution.maxConcurrentPaths)]),
    ("failsafes", .record [
      ("stop_on_inconsistent_balance", .bool c.failsafes.stopOnInconsistentBalance),
      ("max_daily_loss_fraction", .float c.failsafes.maxDailyLossFraction),
      ("max_api_error_rate", .float c.failsafes.maxApiErrorRate),
      ("pause_after_rate_limit_seconds", .int c.failsafes.pauseAfterRateLimitSeconds)]),
    ("logging", .record [("log_trades", .bool c.logging.logTrades),
      ("log_paths", .bool c.logging.logPaths), ("log_risk_calcs", .bool c.logging.logRiskCalcs),
      ("print_dry_run_actions", .bool c.logging.printDryRunActions),
      ("log_profitable_trades", .bool c.logging.logProfitableTrades),
      ("heartbeat_enabled", .bool c.logging.heartbeatEnabled),
      ("debug_mode", .bool c.logging.debugMode)]),
    ("scanner", .record [("scan_interval_ms", .int c.scanIntervalMs)])]

end Arbitrage
