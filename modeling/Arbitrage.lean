import Arbitrage.Appraisal.Basic
import Arbitrage.Appraisal.Document
import Arbitrage.Appraisal.Fill
import Arbitrage.Book.Basic
import Arbitrage.Book.Cache
import Arbitrage.Book.Document
import Arbitrage.Config.Basic
import Arbitrage.Config.Document
import Arbitrage.Config.Load
import Arbitrage.Data.Access
import Arbitrage.Data.Calendar
import Arbitrage.Data.Coerce
import Arbitrage.Data.Json
import Arbitrage.Data.Order
import Arbitrage.Data.SetOrder
import Arbitrage.Data.SipHash
import Arbitrage.Data.Text
import Arbitrage.Data.Value
import Arbitrage.Decimal.Fixed
import Arbitrage.Decimal.Read
import Arbitrage.Decimal.Round
import Arbitrage.Decimal.Shortest
import Arbitrage.Exchange.Account
import Arbitrage.Exchange.Basic
import Arbitrage.Exchange.Bootstrap
import Arbitrage.Exchange.Client
import Arbitrage.Exchange.Feed
import Arbitrage.Exchange.Poller
import Arbitrage.Exchange.Script
import Arbitrage.Exchange.Session
import Arbitrage.Fault
import Arbitrage.Launch
import Arbitrage.Log
import Arbitrage.Main
import Arbitrage.Market.Document
import Arbitrage.Market.Graph
import Arbitrage.Market.Selection
import Arbitrage.Number.Amount
import Arbitrage.Number.Binary64
import Arbitrage.Number.Exact
import Arbitrage.Number.Scalar
import Arbitrage.Route.Search
import Arbitrage.Scanner
import Arbitrage.SelfTest
import Arbitrage.Stats
import Arbitrage.Text.Base64
import Arbitrage.Text.Blank
import Arbitrage.Text.Case
import Arbitrage.Text.Digit
import Arbitrage.Text.Printable
import Arbitrage.Text.Printf
import Arbitrage.Text.Quoted
import Arbitrage.Text.Codes
import Arbitrage.Text.Ranges
import Arbitrage.Volatility
import Arbitrage.Yaml.Node
import Arbitrage.Yaml.Scalar
import Arbitrage.Yaml.Timestamp
import Arbitrage.Yaml.Token
import Arbitrage.Yaml.Value
import Arbitrage.Proofs.RouteSearch
import Arbitrage.Proofs.Yields
import Arbitrage.Proofs.AppraisalRun
import Arbitrage.Proofs.AppraisalKept
import Arbitrage.Proofs.AppraisalTrace
import Arbitrage.Proofs.AppraisalFaults
import Arbitrage.Proofs.ExactFill
import Arbitrage.Proofs.FloatOrder
import Arbitrage.Proofs.ScanRun
import Arbitrage.Proofs.ScanBest
import Arbitrage.Proofs.VolatilityWindow
import Arbitrage.Proofs.RouteBounds
import Arbitrage.Proofs.MarketNames
import Arbitrage.Proofs.ValueSets
import Arbitrage.Proofs.GraphLayout
import Arbitrage.Proofs.RouteGrowth
import Arbitrage.Proofs.AppraisalStops
import Arbitrage.Proofs.VolatilitySigma
import Arbitrage.Proofs.RawBooks
import Arbitrage.Proofs.WalkLedger
import Arbitrage.Proofs.WatchErrors
