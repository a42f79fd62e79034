import StreamGateway.Digest.Sha256
import StreamGateway.Gateway.Accept
import StreamGateway.Gateway.Activity
import StreamGateway.Gateway.Basic
import StreamGateway.Gateway.Error
import StreamGateway.Gateway.Meters
import StreamGateway.Gateway.Polling
import StreamGateway.Gateway.Serving
import StreamGateway.Gateway.Shutdown
import StreamGateway.Gateway.Step
import StreamGateway.Gateway.Teardown
import StreamGateway.Handler.Basic
import StreamGateway.Handler.Job
import StreamGateway.Handler.Resolver
import StreamGateway.Handler.Response
import StreamGateway.Json.Merge
import StreamGateway.Json.Numeral
import StreamGateway.Json.Parse
import StreamGateway.Json.Print
import StreamGateway.Json.Problem
import StreamGateway.Json.Quote
import StreamGateway.Json.Raw
import StreamGateway.Json.Record
import StreamGateway.Json.Value
import StreamGateway.Log.Directive
import StreamGateway.Log.Event
import StreamGateway.Log.Filter
import StreamGateway.Log.Line
import StreamGateway.Log.Writer
import StreamGateway.Number.Binary64
import StreamGateway.Number.Shortest
import StreamGateway.Number.Unsigned
import StreamGateway.Poller.Backend
import StreamGateway.Poller.Error
import StreamGateway.Poller.Registry
import StreamGateway.Pool.Workers
import StreamGateway.Proofs.Gateway.Duties
import StreamGateway.Proofs.Gateway.Moves
import StreamGateway.Proofs.Gateway.Runs
import StreamGateway.Proofs.Gateway.Stages
import StreamGateway.Proofs.Handler.Changes
import StreamGateway.Proofs.Handler.StaleSinks
import StreamGateway.Proofs.Protocol.Conversation
import StreamGateway.Proofs.Protocol.Link
import StreamGateway.Proofs.Protocol.Operations
import StreamGateway.Proofs.Text.ByteOrder
import StreamGateway.Protocol.Error
import StreamGateway.Protocol.Frame
import StreamGateway.Protocol.Link
import StreamGateway.Protocol.Session
import StreamGateway.Protocol.Subprotocol
import StreamGateway.Settings.Document
import StreamGateway.Settings.Load
import StreamGateway.Settings.Setting
import StreamGateway.Simulation.Conversation
import StreamGateway.Simulation.EngineRoom
import StreamGateway.Simulation.GatewayScene
import StreamGateway.Simulation.HandlerScene
import StreamGateway.Simulation.PollerScene
import StreamGateway.Simulation.ScriptedTransport
import StreamGateway.Simulation.Socket
import StreamGateway.Simulation.SocketScene
import StreamGateway.Simulation.TaskScene
import StreamGateway.Text.Alphanumeric
import StreamGateway.Text.Blank
import StreamGateway.Text.Concealed
import StreamGateway.Text.Pattern
import StreamGateway.Text.Quoted
import StreamGateway.Text.Utf8
import StreamGateway.WebSocket.Connection
import StreamGateway.WebSocket.Frame
import StreamGateway.WebSocket.Upgrade
import StreamGateway.Proofs.Gateway.Bookkeeping
import StreamGateway.Proofs.Gateway.Outliving
import StreamGateway.Proofs.Gateway.Settling
import StreamGateway.Proofs.Gateway.Withdrawals
import StreamGateway.Proofs.Json.Grammar
import StreamGateway.Proofs.Json.Members
import StreamGateway.Proofs.Json.Printing
import StreamGateway.Proofs.Json.Scanning
import StreamGateway.Proofs.Json.Records
import StreamGateway.Proofs.Protocol.Framing
import StreamGateway.Proofs.Handler.Standing
import StreamGateway.Proofs.Handler.Modes
import StreamGateway.Proofs.Protocol.Agreement
import StreamGateway.Proofs.Protocol.Origins
import StreamGateway.Proofs.Settings.Layering
import StreamGateway.Proofs.Gateway.Registry
import StreamGateway.Proofs.Gateway.Rights
import StreamGateway.Proofs.Gateway.Custody
import StreamGateway.Proofs.Protocol.Logs
import StreamGateway.Proofs.Protocol.Atomicity
import StreamGateway.Proofs.Protocol.Gate
import StreamGateway.Proofs.Json.Legibility
import StreamGateway.Proofs.Protocol.Reports
import StreamGateway.Proofs.Handler.Closed
import StreamGateway.Proofs.Gateway.Starting
import StreamGateway.Proofs.Poller.Histories
import StreamGateway.Proofs.Poller.Latecomers
import StreamGateway.Proofs.Text.Decoding
import StreamGateway.Proofs.Json.ReadBack
import StreamGateway.Proofs.Settings.Saving
import StreamGateway.Proofs.Handler.Refusals
import StreamGateway.Proofs.Json.Shapes
import StreamGateway.Proofs.Protocol.Shapes
import StreamGateway.Proofs.Handler.Requests
import StreamGateway.Proofs.Handler.BadRequests
import StreamGateway.Proofs.Json.Unambiguous
import StreamGateway.Proofs.Handler.Responses
import StreamGateway.Proofs.Json.Envelopes
import StreamGateway.Proofs.Json.Returning
import StreamGateway.Proofs.Protocol.Extensions
import StreamGateway.Proofs.Poller.Waits
import StreamGateway.Proofs.Gateway.Company
import StreamGateway.Proofs.Gateway.FailedAccepts
import StreamGateway.Proofs.Protocol.Negotiation
import StreamGateway.Proofs.Json.Layers
import StreamGateway.Proofs.Protocol.Keepalive
