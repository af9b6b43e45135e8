/-
# HotSwap -- an agent that swaps classes in a running process

The root of the library: it brings in every module and holds nothing itself.
-/
import HotSwap.Bytes
import HotSwap.Command.Control
import HotSwap.Command.Invocation
import HotSwap.Command.Options
import HotSwap.Command.Run
import HotSwap.Digest.Blake3
import HotSwap.Files.Depot
import HotSwap.Files.Path
import HotSwap.Files.Tree
import HotSwap.Fingerprint
import HotSwap.Frame.Basic
import HotSwap.Frame.Memory
import HotSwap.Frame.Polled
import HotSwap.Frame.Stream
import HotSwap.Hex
import HotSwap.Host.Call
import HotSwap.Host.Capability
import HotSwap.Host.Scripted
import HotSwap.Host.Simulated
import HotSwap.Host.Value
import HotSwap.IoFault
import HotSwap.Json.Lexer
import HotSwap.Json.Printer
import HotSwap.Json.Reader
import HotSwap.Json.Record
import HotSwap.Json.Value
import HotSwap.Main
import HotSwap.Message.Request
import HotSwap.Message.Response
import HotSwap.Message.Shown
import HotSwap.Payload
import HotSwap.Phase
import HotSwap.Procedure
import HotSwap.Proofs.Coexistence.Likeness
import HotSwap.Proofs.Coexistence.Mirror
import HotSwap.Proofs.Coexistence.Noninterference
import HotSwap.Proofs.Coexistence.Town
import HotSwap.Proofs.Command.LastWord
import HotSwap.Proofs.Command.Sending
import HotSwap.Proofs.Course
import HotSwap.Proofs.Exchange.Delivery
import HotSwap.Proofs.Exchange.Traffic
import HotSwap.Proofs.Files.AppPrivate
import HotSwap.Proofs.Files.ContentName
import HotSwap.Proofs.Files.Descent
import HotSwap.Proofs.Files.Growth
import HotSwap.Proofs.Files.Neighbours
import HotSwap.Proofs.Files.PayloadName
import HotSwap.Proofs.Files.Presence
import HotSwap.Proofs.Files.Settling
import HotSwap.Proofs.Files.Staging
import HotSwap.Proofs.Files.Storing
import HotSwap.Proofs.Files.WriteOnce
import HotSwap.Proofs.Frame.Agreement
import HotSwap.Proofs.Frame.Crossing
import HotSwap.Proofs.Frame.Fetching
import HotSwap.Proofs.Frame.Memory
import HotSwap.Proofs.Frame.Partway
import HotSwap.Proofs.Frame.Reading
import HotSwap.Proofs.Frame.Schedule
import HotSwap.Proofs.Frame.Writing
import HotSwap.Proofs.Handoff.Custody
import HotSwap.Proofs.Handoff.Interleaving
import HotSwap.Proofs.Handoff.Ledger
import HotSwap.Proofs.Handoff.OneAnswer
import HotSwap.Proofs.Handoff.Table
import HotSwap.Proofs.Json.Grammar
import HotSwap.Proofs.Json.Members
import HotSwap.Proofs.Json.Recasting
import HotSwap.Proofs.Json.RoundTrip
import HotSwap.Proofs.Message.Codec
import HotSwap.Proofs.Message.Tolerance
import HotSwap.Proofs.Playing
import HotSwap.Proofs.Rules
import HotSwap.Proofs.Session.Bracket
import HotSwap.Proofs.Session.CallOrder
import HotSwap.Proofs.Session.Confinement
import HotSwap.Proofs.Session.Desk
import HotSwap.Proofs.Session.Docket
import HotSwap.Proofs.Session.Frames
import HotSwap.Proofs.Session.Parking
import HotSwap.Proofs.Session.Parting
import HotSwap.Proofs.Session.Preparation
import HotSwap.Proofs.Session.Questions
import HotSwap.Proofs.Session.Rejection
import HotSwap.Proofs.Session.Report
import HotSwap.Proofs.Session.Route
import HotSwap.Proofs.Session.Stage
import HotSwap.Proofs.Session.Twins
import HotSwap.Proofs.Settings.ConnectTimeout
import HotSwap.Proofs.Settings.Overrides
import HotSwap.Proofs.Simulated.Answers
import HotSwap.Proofs.Simulated.Bindings
import HotSwap.Proofs.Simulated.Chronicle
import HotSwap.Proofs.Simulated.Code
import HotSwap.Proofs.Simulated.Facts
import HotSwap.Proofs.Simulated.Faltering
import HotSwap.Proofs.Simulated.ForeignBuild
import HotSwap.Proofs.Simulated.OncePerProcess
import HotSwap.Proofs.Simulated.Outcomes
import HotSwap.Proofs.Simulated.Playthrough
import HotSwap.Proofs.Simulated.Process
import HotSwap.Proofs.Simulated.Redefinition
import HotSwap.Proofs.Simulated.Rewriting
import HotSwap.Proofs.Simulated.Share
import HotSwap.Proofs.Simulated.TokenAgreement
import HotSwap.Proofs.Simulated.Willing
import HotSwap.Proofs.Simulation.Verdict
import HotSwap.Proofs.Text.Decimal
import HotSwap.Proofs.Text.FingerprintText
import HotSwap.Proofs.Text.HexForm
import HotSwap.Session.Attach
import HotSwap.Session.Bootstrap
import HotSwap.Session.Error
import HotSwap.Session.Handoff
import HotSwap.Session.Instrument
import HotSwap.Session.Marker
import HotSwap.Session.Swap
import HotSwap.Settings.Basic
import HotSwap.Settings.Document
import HotSwap.Simulation.Bench
import HotSwap.Simulation.Fixture
import HotSwap.Simulation.Report
import HotSwap.Simulation.Run
import HotSwap.Simulation.Wire
import HotSwap.Text.Blank
import HotSwap.Text.Combining
import HotSwap.Text.Digits
import HotSwap.Text.Duration
import HotSwap.Text.Printing
import HotSwap.Text.Quoted
import HotSwap.Toml.Document
import HotSwap.Toml.Item
import HotSwap.Toml.Node
import HotSwap.Toml.Number
import HotSwap.Toml.Text
import HotSwap.World.Basic
import HotSwap.World.Link
import HotSwap.World.Parked
import HotSwap.World.Registry
