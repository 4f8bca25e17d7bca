import LendingPool.Abi.Codec
import LendingPool.Abi.Type
import LendingPool.Action
import LendingPool.Address
import LendingPool.Amount.DecimalAmount
import LendingPool.Amount.Surplus
import LendingPool.Amount.Units
import LendingPool.Approval
import LendingPool.Bytes
import LendingPool.Cache
import LendingPool.Cache.Metadata
import LendingPool.Cache.Store
import LendingPool.Call.Adapter
import LendingPool.Call.Aggregator
import LendingPool.Call.Gateway
import LendingPool.Call.Layout
import LendingPool.Call.Logical
import LendingPool.Call.Packed
import LendingPool.Call.Pool
import LendingPool.Call.Token
import LendingPool.Call.View
import LendingPool.Chain.Query
import LendingPool.Chain.Resolution
import LendingPool.Chain.Snapshot
import LendingPool.CommandLine.Arguments
import LendingPool.CommandLine.LogFilter
import LendingPool.CommandLine.Program
import LendingPool.Decimal.Binary64
import LendingPool.Decimal.Decimal96
import LendingPool.Decimal.Digits
import LendingPool.Dialogue
import LendingPool.Fault
import LendingPool.Fault.Input
import LendingPool.Gas
import LendingPool.Intent
import LendingPool.Intent.Codec
import LendingPool.Json.Codec
import LendingPool.Json.Parser
import LendingPool.Json.Printer
import LendingPool.Json.Record
import LendingPool.Json.Token
import LendingPool.Json.Value
import LendingPool.Keccak
import LendingPool.Main
import LendingPool.NameHash
import LendingPool.Node.Http
import LendingPool.Node.Message
import LendingPool.Node.Reader
import LendingPool.Node.Url
import LendingPool.Order
import LendingPool.Permit.Signature
import LendingPool.Permit.TypedData
import LendingPool.Planner
import LendingPool.Proofs.Abi.Canonical
import LendingPool.Proofs.Abi.PlainWords
import LendingPool.Proofs.Abi.RoundTrip
import LendingPool.Proofs.Address
import LendingPool.Proofs.Amount.Canonical
import LendingPool.Proofs.Amount.Conversion
import LendingPool.Proofs.Amount.FixedWidth
import LendingPool.Proofs.Amount.Premium
import LendingPool.Proofs.Amount.Spelling
import LendingPool.Proofs.Amount.Surplus
import LendingPool.Proofs.Amount.Typed
import LendingPool.Proofs.Bytes.Hexadecimal
import LendingPool.Proofs.Cache.Freshness
import LendingPool.Proofs.Cache.History
import LendingPool.Proofs.Cache.Metadata
import LendingPool.Proofs.Cache.Operations
import LendingPool.Proofs.Cache.Places
import LendingPool.Proofs.Cache.Sharing
import LendingPool.Proofs.Cache.Store
import LendingPool.Proofs.Call.Adapter
import LendingPool.Proofs.Call.Format
import LendingPool.Proofs.Call.Gateway
import LendingPool.Proofs.Call.Layout
import LendingPool.Proofs.Call.Logical
import LendingPool.Proofs.Call.Packed
import LendingPool.Proofs.Call.Pool
import LendingPool.Proofs.Call.PoolData
import LendingPool.Proofs.Call.Reading
import LendingPool.Proofs.Call.Selectors
import LendingPool.Proofs.Call.Token
import LendingPool.Proofs.Call.Writing
import LendingPool.Proofs.Chain.Accounts
import LendingPool.Proofs.Chain.Answers
import LendingPool.Proofs.Chain.Dependence
import LendingPool.Proofs.Chain.Outcomes
import LendingPool.Proofs.Chain.Planning
import LendingPool.Proofs.Chain.Validation
import LendingPool.Proofs.Decimal.Digits
import LendingPool.Proofs.Decimal.Floats
import LendingPool.Proofs.Decimal.Reading
import LendingPool.Proofs.Decimal.Rounding
import LendingPool.Proofs.Decimal.Shortest
import LendingPool.Proofs.Intent.RoundTrip
import LendingPool.Proofs.Json.Members
import LendingPool.Proofs.Json.RoundTrip
import LendingPool.Proofs.Json.Texts
import LendingPool.Proofs.NameHash
import LendingPool.Proofs.Permit.Signature
import LendingPool.Proofs.Permit.TypedData
import LendingPool.Proofs.Plan.Accepted
import LendingPool.Proofs.Plan.Actions
import LendingPool.Proofs.Plan.Amounts
import LendingPool.Proofs.Plan.Availability
import LendingPool.Proofs.Plan.Beneficiaries
import LendingPool.Proofs.Plan.Checked
import LendingPool.Proofs.Plan.Dealings
import LendingPool.Proofs.Plan.DeclaredPermits
import LendingPool.Proofs.Plan.Denials
import LendingPool.Proofs.Plan.Draft
import LendingPool.Proofs.Plan.Drafts
import LendingPool.Proofs.Plan.Encodings
import LendingPool.Proofs.Plan.EntireBalances
import LendingPool.Proofs.Plan.Finishing
import LendingPool.Proofs.Plan.Following
import LendingPool.Proofs.Plan.GasLimits
import LendingPool.Proofs.Plan.Instructions
import LendingPool.Proofs.Plan.Loans
import LendingPool.Proofs.Plan.NativeCurrency
import LendingPool.Proofs.Plan.Orders
import LendingPool.Proofs.Plan.Preencoded
import LendingPool.Proofs.Plan.Premiums
import LendingPool.Proofs.Plan.Pricing
import LendingPool.Proofs.Plan.Refusals
import LendingPool.Proofs.Plan.Selectors
import LendingPool.Proofs.Plan.Shape
import LendingPool.Proofs.Plan.SignedPermits
import LendingPool.Proofs.Plan.Sufficiency
import LendingPool.Proofs.Session.Caching
import LendingPool.Proofs.Session.Descriptors
import LendingPool.Proofs.Session.Steps
import LendingPool.Proofs.Settings.Accepted
import LendingPool.Proofs.Settings.Loading
import LendingPool.Proofs.Settings.Parts
import LendingPool.Proofs.Settings.Reading
import LendingPool.Proofs.Settings.References
import LendingPool.Proofs.Text.LowerCase
import LendingPool.Proofs.Toml.Document
import LendingPool.Proofs.Toml.Occurrences
import LendingPool.Proofs.Toml.Places
import LendingPool.Proofs.Toml.Violations
import LendingPool.RateMode
import LendingPool.Settings
import LendingPool.Settings.Loading
import LendingPool.Settings.Reading
import LendingPool.Text.CaseTable
import LendingPool.Text.LowerCase
import LendingPool.Text.Split
import LendingPool.Toml.Document
import LendingPool.Toml.Number
import LendingPool.Toml.Scanner
import LendingPool.Toml.Schema
import LendingPool.Toml.Text
import LendingPool.Toml.Value
import LendingPool.Transaction
import LendingPool.Word
