import ArithmeticCloud.Arithmetic.Expression
import ArithmeticCloud.Arithmetic.Operator
import ArithmeticCloud.Arithmetic.OperatorSet
import ArithmeticCloud.Arithmetic.Saturation
import ArithmeticCloud.Billing.Accounts
import ArithmeticCloud.Billing.AccountsRequest
import ArithmeticCloud.Billing.Directory
import ArithmeticCloud.Billing.Notifier
import ArithmeticCloud.Cloud
import ArithmeticCloud.CommandLine
import ArithmeticCloud.Concurrency.Actor
import ArithmeticCloud.Concurrency.StopSignal
import ArithmeticCloud.Console.Form
import ArithmeticCloud.Console.Instruction
import ArithmeticCloud.Delivery.Failure
import ArithmeticCloud.Document
import ArithmeticCloud.Document.Json
import ArithmeticCloud.Document.Token
import ArithmeticCloud.Fault
import ArithmeticCloud.Fleet.Liveness
import ArithmeticCloud.Fleet.Logs
import ArithmeticCloud.Fleet.Membership
import ArithmeticCloud.Fleet.Registry
import ArithmeticCloud.Fleet.RegistryRequest
import ArithmeticCloud.Joining.Agent
import ArithmeticCloud.Joining.Request
import ArithmeticCloud.Joining.Round
import ArithmeticCloud.LogLevel
import ArithmeticCloud.Main
import ArithmeticCloud.Network.Address
import ArithmeticCloud.Network.AddressText
import ArithmeticCloud.Network.Socket
import ArithmeticCloud.Node.History
import ArithmeticCloud.Node.Levels
import ArithmeticCloud.Node.Remote
import ArithmeticCloud.Node.Server
import ArithmeticCloud.Program.Controller
import ArithmeticCloud.Program.Node
import ArithmeticCloud.Program.Sockets
import ArithmeticCloud.Proofs.Arithmetic.Constructions
import ArithmeticCloud.Proofs.Arithmetic.Expressions
import ArithmeticCloud.Proofs.Arithmetic.Wrapping
import ArithmeticCloud.Proofs.Billing.Accounts
import ArithmeticCloud.Proofs.Billing.Receivers
import ArithmeticCloud.Proofs.Billing.Subscriptions
import ArithmeticCloud.Proofs.Concurrency.Actors
import ArithmeticCloud.Proofs.Concurrency.Lifetimes
import ArithmeticCloud.Proofs.Fleet.Gathering
import ArithmeticCloud.Proofs.Fleet.Records
import ArithmeticCloud.Proofs.Fleet.Selection
import ArithmeticCloud.Proofs.Fleet.Silence
import ArithmeticCloud.Proofs.Fleet.Spread
import ArithmeticCloud.Proofs.Fleet.Views
import ArithmeticCloud.Proofs.Joining.Adoption
import ArithmeticCloud.Proofs.Joining.Aftermath
import ArithmeticCloud.Proofs.Joining.Agreement
import ArithmeticCloud.Proofs.Joining.Coherence
import ArithmeticCloud.Proofs.Joining.Crossing
import ArithmeticCloud.Proofs.Joining.Negotiation
import ArithmeticCloud.Proofs.Joining.Outcome
import ArithmeticCloud.Proofs.Joining.Rounds
import ArithmeticCloud.Proofs.Joining.Shares
import ArithmeticCloud.Proofs.Joining.Staging
import ArithmeticCloud.Proofs.Joining.Tasks
import ArithmeticCloud.Proofs.Joining.Turns
import ArithmeticCloud.Proofs.Network.Endpoints
import ArithmeticCloud.Proofs.Network.Groups
import ArithmeticCloud.Proofs.Node.Histories
import ArithmeticCloud.Proofs.Node.Peers
import ArithmeticCloud.Proofs.Node.RecordLines
import ArithmeticCloud.Proofs.Node.Retention
import ArithmeticCloud.Proofs.Permutations
import ArithmeticCloud.Proofs.Service.Answers
import ArithmeticCloud.Proofs.Service.Balance
import ArithmeticCloud.Proofs.Service.Calls
import ArithmeticCloud.Proofs.Service.Charges
import ArithmeticCloud.Proofs.Service.Dialogues
import ArithmeticCloud.Proofs.Service.Effects
import ArithmeticCloud.Proofs.Service.ExactValues
import ArithmeticCloud.Proofs.Service.Listening
import ArithmeticCloud.Proofs.Service.Mailboxes
import ArithmeticCloud.Proofs.Service.Notices
import ArithmeticCloud.Proofs.Service.Occupancy
import ArithmeticCloud.Proofs.Service.Payments
import ArithmeticCloud.Proofs.Service.Pending
import ArithmeticCloud.Proofs.Service.Processes
import ArithmeticCloud.Proofs.Service.Recording
import ArithmeticCloud.Proofs.Service.Refusals
import ArithmeticCloud.Proofs.Service.RemoteEvaluation
import ArithmeticCloud.Proofs.Service.Responses
import ArithmeticCloud.Proofs.Service.Solvency
import ArithmeticCloud.Proofs.Service.Tallies
import ArithmeticCloud.Proofs.Service.Traffic
import ArithmeticCloud.Proofs.Service.Truncation
import ArithmeticCloud.Proofs.Service.Turns
import ArithmeticCloud.Proofs.Text.NumeralForms
import ArithmeticCloud.Proofs.Text.Numerals
import ArithmeticCloud.Proofs.Text.Words
import ArithmeticCloud.Proofs.Transport.Connections
import ArithmeticCloud.Proofs.Transport.Cuts
import ArithmeticCloud.Proofs.Transport.Lines
import ArithmeticCloud.Proofs.Wire.Canonical
import ArithmeticCloud.Proofs.Wire.Cursors
import ArithmeticCloud.Proofs.Wire.Grammar
import ArithmeticCloud.Proofs.Wire.Messages
import ArithmeticCloud.Proofs.Wire.RoundTrips
import ArithmeticCloud.Service.Clients
import ArithmeticCloud.Service.Controller
import ArithmeticCloud.Service.Conversation
import ArithmeticCloud.Service.Evaluation
import ArithmeticCloud.Service.NodeLink
import ArithmeticCloud.Service.Process
import ArithmeticCloud.Service.Request
import ArithmeticCloud.Service.Session
import ArithmeticCloud.Service.Statistics
import ArithmeticCloud.Settings.Controller
import ArithmeticCloud.Settings.Format
import ArithmeticCloud.Settings.Node
import ArithmeticCloud.Settings.Violation
import ArithmeticCloud.Text.Blank
import ArithmeticCloud.Text.Columns
import ArithmeticCloud.Text.Decimal
import ArithmeticCloud.Text.Numeral
import ArithmeticCloud.Text.Quoted
import ArithmeticCloud.Time.Duration
import ArithmeticCloud.Transport.Channel
import ArithmeticCloud.Transport.Exchange
import ArithmeticCloud.Transport.Form
import ArithmeticCloud.Transport.Line
import ArithmeticCloud.Wire.Cursor
import ArithmeticCloud.Wire.Derivation
import ArithmeticCloud.Wire.Field
import ArithmeticCloud.Wire.Form
import ArithmeticCloud.Wire.Message
import ArithmeticCloud.Wire.Protocol
