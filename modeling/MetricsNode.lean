import MetricsNode.Cli.Options
import MetricsNode.Cli.Run
import MetricsNode.Cli.Similarity
import MetricsNode.Decimal.Read
import MetricsNode.Decimal.Shortest
import MetricsNode.Decimal.Text
import MetricsNode.Digest.Base64
import MetricsNode.Digest.Sha256
import MetricsNode.Main
import MetricsNode.Net.Address
import MetricsNode.Node.Access
import MetricsNode.Node.Command
import MetricsNode.Node.Config
import MetricsNode.Node.Error
import MetricsNode.Node.Identity
import MetricsNode.Node.Machine
import MetricsNode.Node.Protocol
import MetricsNode.Node.Server
import MetricsNode.Node.Session
import MetricsNode.Plugin.Basic
import MetricsNode.Plugin.Config
import MetricsNode.Plugin.Error
import MetricsNode.Plugin.Field
import MetricsNode.Plugin.Graph
import MetricsNode.Plugin.Name
import MetricsNode.Plugin.Style
import MetricsNode.Plugin.Uptime
import MetricsNode.Text.Inspect
import MetricsNode.Text.Unicode
import MetricsNode.Time.Duration
import MetricsNode.Time.Instant
import MetricsNode.Toml.Decode
import MetricsNode.Toml.Document
import MetricsNode.Toml.Lexical
import MetricsNode.Toml.Scalar
import MetricsNode.Toml.Value
import MetricsNode.Wire.Framer
import MetricsNode.Wire.Utf8
import MetricsNode.Proofs.LineFraming
import MetricsNode.Proofs.EngineAnswers
import MetricsNode.Proofs.SessionSteps
import MetricsNode.Proofs.OrderlyExchange
import MetricsNode.Proofs.SmoothSession
import MetricsNode.Proofs.SessionProgress
import MetricsNode.Proofs.CallbackBracket
import MetricsNode.Proofs.CommandTable
import MetricsNode.Proofs.StateDiagram
import MetricsNode.Proofs.SequentialSchedule
import MetricsNode.Proofs.FailureIsolation
import MetricsNode.Proofs.WireLines
import MetricsNode.Proofs.ResponseLines
import MetricsNode.Proofs.CommandDispatch
import MetricsNode.Proofs.ConfigBlocks
import MetricsNode.Proofs.ExactArithmetic
import MetricsNode.Proofs.NearestDouble
import MetricsNode.Proofs.ShortestDigits
import MetricsNode.Proofs.NumberText
import MetricsNode.Proofs.LabelNames
import MetricsNode.Proofs.AccessGate
import MetricsNode.Proofs.AddressLists
import MetricsNode.Proofs.PluginBuild
