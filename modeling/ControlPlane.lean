import ControlPlane.Smt.Term
import ControlPlane.Smt.Fold
import ControlPlane.Smt.Error
import ControlPlane.Smt.Model
import ControlPlane.Smt.Context
import ControlPlane.Json.Value
import ControlPlane.Json.Parse
import ControlPlane.Json.Decode
import ControlPlane.Text.Basic
import ControlPlane.Network.Error
import ControlPlane.Network.Address
import ControlPlane.Text.Digest
import ControlPlane.Text.CharSet
import ControlPlane.Text.Packed
import ControlPlane.Text.Category
import ControlPlane.Text.Script
import ControlPlane.Text.BinaryProperty
import ControlPlane.Text.Age
import ControlPlane.Text.Segment
import ControlPlane.Text.CaseFold
import ControlPlane.Text.PropertyName
import ControlPlane.Text.Property
import ControlPlane.Text.Regex.Basic
import ControlPlane.Text.Regex.Utf8
import ControlPlane.Text.Regex.Parse
import ControlPlane.Text.Regex.Size
import ControlPlane.Text.Regex.Match
import ControlPlane.Text.Regex
import ControlPlane.Network.Packet
import ControlPlane.Network.Policy
import ControlPlane.Network.Config
import ControlPlane.Network.Walk
import ControlPlane.Network.Community
import ControlPlane.Network.Schema
import ControlPlane.Order
import ControlPlane.Network.Topology
import ControlPlane.Network.Graph
import ControlPlane.Report.Graph
import ControlPlane.Encoding.Error
import ControlPlane.Check.Error
import ControlPlane.Check.Pattern
import ControlPlane.Encoding.Basic
import ControlPlane.Encoding.Enum
import ControlPlane.Encoding.Packet
import ControlPlane.Encoding.Acl
import ControlPlane.Encoding.Scope
import ControlPlane.Encoding.Route
import ControlPlane.Encoding.Failures
import ControlPlane.Encoding.LogicalGraph
import ControlPlane.Encoding.Decisions
import ControlPlane.Check.Question
import ControlPlane.Encoding.Slice
import ControlPlane.Encoding.Preference
import ControlPlane.Encoding.Transfer
import ControlPlane.Encoding.Constraints
import ControlPlane.Check.Instrument
import ControlPlane.Encoding.Encoder
import ControlPlane.Check.Trace
import ControlPlane.Text.Double
import ControlPlane.Check.Result
import ControlPlane.Check.Verify
import ControlPlane.Check.Locate
import ControlPlane.Check.Checker
import ControlPlane.Report.Answer
import ControlPlane.Report.Encoding
import ControlPlane.Check.Query
import ControlPlane.Report.Views
import ControlPlane.Cli.Args
import ControlPlane.Cli.Run
import ControlPlane.Cli.Program
import ControlPlane.Main
import ControlPlane.Proofs.Smt.Folding
import ControlPlane.Proofs.Smt.Simplify
import ControlPlane.Proofs.Smt.Builder
import ControlPlane.Proofs.Encoding.AclFormula
import ControlPlane.Proofs.Smt.Frame
import ControlPlane.Proofs.Encoding.Steps
import ControlPlane.Proofs.Encoding.Growth
import ControlPlane.Proofs.Check.Forwarding
import ControlPlane.Proofs.Check.Loop
import ControlPlane.Proofs.Check.Reachability
import ControlPlane.Proofs.Check.Counters
import ControlPlane.Proofs.Check.PathLength
import ControlPlane.Proofs.Check.Load
import ControlPlane.Proofs.Network.AddressText
import ControlPlane.Proofs.Check.Solving
import ControlPlane.Proofs.Check.Minimize
import ControlPlane.Proofs.Encoding.PolicyCalls
import ControlPlane.Proofs.Encoding.Persistence
import ControlPlane.Proofs.Encoding.Preference
import ControlPlane.Proofs.Network.EdgeOrder
import ControlPlane.Proofs.Encoding.ForwardingTable
import ControlPlane.Proofs.Check.Trace
import ControlPlane.Proofs.Encoding.Guarantees
import ControlPlane.Proofs.Network.PolicyWalk
import ControlPlane.Proofs.Network.Communities
import ControlPlane.Proofs.Encoding.ModeledFields
import ControlPlane.Proofs.Check.FailureBudget
import ControlPlane.Proofs.Network.Links
import ControlPlane.Proofs.Check.FailedLinks
import ControlPlane.Proofs.Network.PhysicalLinks
import ControlPlane.Proofs.Encoding.FailureVariables
import ControlPlane.Proofs.Check.LinkFailures
import ControlPlane.Proofs.Network.Prefixes
import ControlPlane.Proofs.Encoding.PrefixMatch
import ControlPlane.Proofs.Encoding.Enums
import ControlPlane.Proofs.Check.Destinations
import ControlPlane.Proofs.Smt.TextLength
import ControlPlane.Proofs.Network.PolicyVisits
import ControlPlane.Proofs.Encoding.SliceGrowth
import ControlPlane.Proofs.Network.BuiltGraph
import ControlPlane.Proofs.Encoding.BestRecords
import ControlPlane.Proofs.Encoding.SelectionConstraints
import ControlPlane.Proofs.Encoding.ForwardingDecisions
import ControlPlane.Proofs.Network.LinkPairing
import ControlPlane.Proofs.Network.InferredLinks
import ControlPlane.Proofs.Encoding.MainSlice
