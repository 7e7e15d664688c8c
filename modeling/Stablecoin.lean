import Stablecoin.Book
import Stablecoin.Csv
import Stablecoin.Decimal.Binary
import Stablecoin.Decimal.Fixed
import Stablecoin.Decimal.Layout
import Stablecoin.Decimal.Numeral
import Stablecoin.Decimal.Shortest
import Stablecoin.Disk.Basic
import Stablecoin.Disk.Tree
import Stablecoin.Json.Reader
import Stablecoin.Json.Token
import Stablecoin.Json.Value
import Stablecoin.Ledger.Basic
import Stablecoin.Ledger.Borrowing
import Stablecoin.Ledger.Call
import Stablecoin.Ledger.Liquidation
import Stablecoin.Ledger.Redemption
import Stablecoin.Ledger.Refusal
import Stablecoin.Ledger.RefusalText
import Stablecoin.Ledger.StabilityPool
import Stablecoin.Main
import Stablecoin.Market.Adjustments
import Stablecoin.Market.Closures
import Stablecoin.Market.Context
import Stablecoin.Market.Deposits
import Stablecoin.Market.Flows
import Stablecoin.Market.Liquidations
import Stablecoin.Market.Openings
import Stablecoin.Market.Paths
import Stablecoin.Market.Peg
import Stablecoin.Market.Reward
import Stablecoin.Market.State
import Stablecoin.Market.Traits
import Stablecoin.Number
import Stablecoin.Parameters
import Stablecoin.Parameters.Fields
import Stablecoin.Parameters.File
import Stablecoin.Parameters.Json
import Stablecoin.Parameters.Toml
import Stablecoin.Parameters.Validation
import Stablecoin.Path
import Stablecoin.Program.Basic
import Stablecoin.Program.Command
import Stablecoin.Program.Console
import Stablecoin.Program.Failure
import Stablecoin.Random.Distribution
import Stablecoin.Random.Draw
import Stablecoin.Random.ExponentialLayers
import Stablecoin.Random.KeyStream
import Stablecoin.Random.NormalLayers
import Stablecoin.Random.Sample
import Stablecoin.Random.Streams
import Stablecoin.Random.Ziggurat
import Stablecoin.Ratio
import Stablecoin.Replay.Preparation
import Stablecoin.Replay.Prices
import Stablecoin.Roster
import Stablecoin.Run.Batch
import Stablecoin.Run.Error
import Stablecoin.Run.Row
import Stablecoin.Run.Simulation
import Stablecoin.Run.Summary
import Stablecoin.Text.Blank
import Stablecoin.Text.Hidden
import Stablecoin.Text.Quoted
import Stablecoin.Toml.Reader
import Stablecoin.Toml.Scalar
import Stablecoin.Toml.Value
import Stablecoin.Proofs.Book
import Stablecoin.Proofs.Exact
import Stablecoin.Proofs.Comparison
import Stablecoin.Proofs.Ledger.Acceptance
import Stablecoin.Proofs.Ledger.Steps
import Stablecoin.Proofs.Ledger.Runs
import Stablecoin.Proofs.Ledger.Totals
import Stablecoin.Proofs.Ledger.Batches
import Stablecoin.Proofs.Ledger.Conservation
import Stablecoin.Proofs.Ledger.Troves
import Stablecoin.Proofs.Ledger.WellFormed
import Stablecoin.Proofs.Ledger.Atomicity
import Stablecoin.Proofs.Ledger.Borrowers
import Stablecoin.Proofs.Ledger.Collateral
import Stablecoin.Proofs.Ledger.Backing
import Stablecoin.Proofs.Roster
import Stablecoin.Run.Call
import Stablecoin.Proofs.Ledger.Holders
import Stablecoin.Proofs.Ledger.Order
import Stablecoin.Proofs.Ledger.Eligibility
import Stablecoin.Proofs.Ledger.Pledges
import Stablecoin.Proofs.Ledger.Gains
import Stablecoin.Proofs.Ledger.Splitting
import Stablecoin.Proofs.Ledger.LiquidationOrder
import Stablecoin.Proofs.Ledger.RedemptionOrder
import Stablecoin.Proofs.Market.Paths
import Stablecoin.Proofs.Random.Streams
import Stablecoin.Proofs.Random.SinglePrecision
import Stablecoin.Proofs.Random.Sample
import Stablecoin.Proofs.Market.Payouts
import Stablecoin.Proofs.Market.Resizing
import Stablecoin.Proofs.Market.Deposits
import Stablecoin.Proofs.Market.Turnover
import Stablecoin.Proofs.Market.Liquidations
import Stablecoin.Proofs.Market.Peg
import Stablecoin.Proofs.Market.Agreement
import Stablecoin.Proofs.Market.Collateral
import Stablecoin.Proofs.Market.Eligibility
import Stablecoin.Proofs.Market.Rest
import Stablecoin.Proofs.Market.Ceiling
import Stablecoin.Proofs.Market.Floor
import Stablecoin.Proofs.Market.Clearing
import Stablecoin.Proofs.Market.Bounds
import Stablecoin.Proofs.Market.Turns
import Stablecoin.Proofs.Market.Targets
import Stablecoin.Proofs.Run.Steps
import Stablecoin.Proofs.Run.Passing
import Stablecoin.Proofs.Run.Agreement
import Stablecoin.Proofs.Run.Rest
import Stablecoin.Proofs.Run.Quiet
import Stablecoin.Proofs.Run.Holders
import Stablecoin.Proofs.Run.Collateral
import Stablecoin.Proofs.Run.Outset
import Stablecoin.Proofs.Run.Report
import Stablecoin.Proofs.Run.Horizon
import Stablecoin.Proofs.Run.Shape
import Stablecoin.Proofs.Run.Failure
import Stablecoin.Proofs.Run.FixedPoint
import Stablecoin.Proofs.Ledger.Reach
import Stablecoin.Proofs.Replay.Preparation
import Stablecoin.Proofs.Path
import Stablecoin.Proofs.Disk
import Stablecoin.Proofs.Run.Files
import Stablecoin.Proofs.Run.Batch
import Stablecoin.Proofs.Decimal.Rounding
import Stablecoin.Proofs.Decimal.Binary
import Stablecoin.Proofs.Decimal.Shortest
import Stablecoin.Proofs.Decimal.Numeral
import Stablecoin.Proofs.Decimal.Layout
import Stablecoin.Proofs.Toml.Scalar
import Stablecoin.Proofs.Toml.Document
import Stablecoin.Proofs.Parameters.Toml
import Stablecoin.Proofs.Run.Single
import Stablecoin.Proofs.Run.Statistics
import Stablecoin.Roster.Call
import Stablecoin.Proofs.Roster.Calls
import Stablecoin.Proofs.Market.Repayments
import Stablecoin.Proofs.Run.Records
import Stablecoin.Proofs.Run.Windows
