import ChainParams.BlockHash
import ChainParams.Checkpoints
import ChainParams.ConsensusRules
import ChainParams.Decimal.Binary64
import ChainParams.Decimal.Shortest
import ChainParams.Definition.Document
import ChainParams.Definition.Fault
import ChainParams.Definition.Form
import ChainParams.Definition.Network
import ChainParams.Definition.Parts
import ChainParams.Definition.Record
import ChainParams.Error
import ChainParams.Event
import ChainParams.Inspect.Arguments
import ChainParams.Inspect.Failure
import ChainParams.Inspect.Report
import ChainParams.Json.Basic
import ChainParams.Json.Number
import ChainParams.Json.Parser
import ChainParams.Json.Printer
import ChainParams.KeyVersion
import ChainParams.Magic
import ChainParams.Main
import ChainParams.Network
import ChainParams.PowLimit
import ChainParams.Proofs.BlockHash
import ChainParams.Proofs.Checkpoints
import ChainParams.Proofs.Checkpoints.Construction
import ChainParams.Proofs.Checkpoints.Lookup
import ChainParams.Proofs.Computation
import ChainParams.Proofs.Definition.Defaults
import ChainParams.Proofs.Definition.Document
import ChainParams.Proofs.Definition.Form
import ChainParams.Proofs.Definition.KeyVersions
import ChainParams.Proofs.Definition.Lists
import ChainParams.Proofs.Definition.Malformed
import ChainParams.Proofs.Definition.Overrides
import ChainParams.Proofs.Definition.Parts
import ChainParams.Proofs.Definition.Places
import ChainParams.Proofs.Definition.Record
import ChainParams.Proofs.Definition.RoundTrip
import ChainParams.Proofs.Definition.Settings
import ChainParams.Proofs.Definition.Shape
import ChainParams.Proofs.Definition.Spelling
import ChainParams.Proofs.Definition.WholeSeconds
import ChainParams.Proofs.Inspect.Classification
import ChainParams.Proofs.Inspect.Layout
import ChainParams.Proofs.Inspect.Listing
import ChainParams.Proofs.Inspect.Lookup
import ChainParams.Proofs.Inspect.StandardNetworks
import ChainParams.Proofs.Json.Array
import ChainParams.Proofs.Json.Scalar
import ChainParams.Proofs.Json.Sorted
import ChainParams.Proofs.Json.Text
import ChainParams.Proofs.KeyVersion
import ChainParams.Proofs.Magic
import ChainParams.Proofs.Network
import ChainParams.Proofs.Network.Requirements
import ChainParams.Proofs.PowLimit
import ChainParams.Proofs.Registry.Atomic
import ChainParams.Proofs.Registry.Catalogue
import ChainParams.Proofs.Registry.File
import ChainParams.Proofs.Registry.KeyVersions
import ChainParams.Proofs.Registry.Order
import ChainParams.Proofs.Registry.Prefixes
import ChainParams.Proofs.Registry.Reachable
import ChainParams.Proofs.Registry.Records
import ChainParams.Proofs.Registry.Resolution
import ChainParams.Proofs.Registry.Room
import ChainParams.Proofs.Registry.Run
import ChainParams.Proofs.Schedule
import ChainParams.Proofs.Schedule.Table
import ChainParams.Proofs.Schedule.Voting
import ChainParams.Proofs.Search
import ChainParams.Proofs.Text.Digits
import ChainParams.Proofs.Text.Hex
import ChainParams.Proofs.Text.Marked
import ChainParams.Proofs.Time.Calendar
import ChainParams.Proofs.Time.Text
import ChainParams.Proofs.VoteWindow
import ChainParams.Proofs.WellFormed
import ChainParams.Proofs.Word
import ChainParams.Registry
import ChainParams.Schedule
import ChainParams.SporkKeys
import ChainParams.StandardNetwork
import ChainParams.Table
import ChainParams.Text.Blank
import ChainParams.Text.Column
import ChainParams.Text.Hex
import ChainParams.Text.Numeral
import ChainParams.Text.Printable
import ChainParams.Text.Quoted
import ChainParams.Text.Utf8
import ChainParams.Time.Calendar
import ChainParams.Time.Duration
import ChainParams.Time.Instant
import ChainParams.Time.Parser
import ChainParams.Time.Printer
import ChainParams.Upgrade
import ChainParams.VoteWindow
import ChainParams.Word
