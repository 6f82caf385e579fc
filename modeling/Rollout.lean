import Rollout.Chain.Endpoint
import Rollout.Main
import Rollout.Network.Connection
import Rollout.Proofs.Chain.Queries
import Rollout.Proofs.CommandLine.Connecting
import Rollout.Proofs.CommandLine.Crashing
import Rollout.Proofs.CommandLine.Finishing
import Rollout.Proofs.CommandLine.History
import Rollout.Proofs.CommandLine.Invocation
import Rollout.Proofs.CommandLine.Wiring
import Rollout.Proofs.Deployment.Attempt
import Rollout.Proofs.Deployment.Building
import Rollout.Proofs.Deployment.Completing
import Rollout.Proofs.Deployment.Course
import Rollout.Proofs.Deployment.Halting
import Rollout.Proofs.Deployment.Interruption
import Rollout.Proofs.Deployment.Messages
import Rollout.Proofs.Deployment.Midway
import Rollout.Proofs.Deployment.Persistence
import Rollout.Proofs.Deployment.Reordering
import Rollout.Proofs.Deployment.Resumption
import Rollout.Proofs.Deployment.Single
import Rollout.Proofs.Deployment.Success
import Rollout.Proofs.Deployment.Turn
import Rollout.Proofs.Deployment.Unexpected
import Rollout.Proofs.Deployment.Updates
import Rollout.Proofs.Files.Writing
import Rollout.Proofs.Json.Ascii
import Rollout.Proofs.Json.Float
import Rollout.Proofs.Json.Integer
import Rollout.Proofs.Json.Listing
import Rollout.Proofs.Json.Reading
import Rollout.Proofs.Json.RoundTrip
import Rollout.Proofs.Json.Text
import Rollout.Proofs.Lookup
import Rollout.Proofs.Number.Binary64
import Rollout.Proofs.Number.Decimal
import Rollout.Proofs.Number.Numeral
import Rollout.Proofs.Number.Overflow
import Rollout.Proofs.Number.Plain
import Rollout.Proofs.Path
import Rollout.Proofs.Plan.Completion
import Rollout.Proofs.Plan.Loading
import Rollout.Proofs.Plan.Order
import Rollout.Proofs.Plan.Rewriting
import Rollout.Proofs.Plan.Shape
import Rollout.Proofs.Plan.Standard
import Rollout.Proofs.Registry.Loading
import Rollout.Proofs.Registry.Location
import Rollout.Proofs.Registry.Repetition
import Rollout.Proofs.Registry.Saving
import Rollout.Proofs.Registry.Shape
import Rollout.Proofs.Registry.Stability
import Rollout.Proofs.Schema.Acceptance
import Rollout.Proofs.Schema.Conformance
import Rollout.Proofs.Schema.Judging
import Rollout.Proofs.Schema.Numerals
import Rollout.Proofs.Schema.Suiting
import Rollout.Proofs.Session
import Rollout.Proofs.Template.Encoding
import Rollout.Proofs.Template.Filling
import Rollout.Proofs.Template.Marking
import Rollout.Proofs.Template.Missing
import Rollout.Proofs.Template.Places
import Rollout.Proofs.Value.Integer
import Rollout.Proofs.Wire.Amount
import Rollout.Proofs.Wire.Encoding
import Rollout.Proofs.Wire.Units
import Rollout.Proofs.Wire.Clock
import Rollout.Proofs.Wire.Binary
import Rollout.Proofs.Places
import Rollout.Proofs.Template.Spelling
import Rollout.Proofs.Number.Spelling
import Rollout.Proofs.Wire.Canonical
import Rollout.Proofs.Wire.Timestamp
import Rollout.Proofs.Network.PriceList
import Rollout.Proofs.Network.Published
import Rollout.Proofs.Number.Neighbours
import Rollout.Proofs.Number.Shortest
import Rollout.Proofs.Text.Splitting
import Rollout.Proofs.Wire.Address
import Rollout.Proofs.Wire.Refusal
