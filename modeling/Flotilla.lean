import Flotilla.AdminClient
import Flotilla.Apiserver.Feed
import Flotilla.Apiserver.Informers
import Flotilla.Apiserver.World
import Flotilla.Bootstrap
import Flotilla.Cancellation
import Flotilla.Config
import Flotilla.Controllers.Activity
import Flotilla.Controllers.Lookups
import Flotilla.Controllers.Node
import Flotilla.Controllers.Service
import Flotilla.Controllers.Transition
import Flotilla.Encoding.Base64
import Flotilla.Encoding.Pem
import Flotilla.Failure
import Flotilla.FeatureGates
import Flotilla.Fleet.Controller
import Flotilla.Fleet.Cycle
import Flotilla.Fleet.Rehearsal
import Flotilla.Fleet.Run
import Flotilla.Fleet.Script
import Flotilla.Instance.Creation
import Flotilla.Instance.Handle
import Flotilla.Instance.Launch
import Flotilla.Instance.Start
import Flotilla.Instance.Timeline
import Flotilla.Kube.JsonText
import Flotilla.Kube.Objects
import Flotilla.Kube.Shape
import Flotilla.Kube.Value
import Flotilla.Kubeconfig.Basic
import Flotilla.Kubeconfig.Client
import Flotilla.Kubeconfig.Fields
import Flotilla.LogLine
import Flotilla.Main
import Flotilla.Metrics.Exposition
import Flotilla.Metrics.Session
import Flotilla.Metrics.Store
import Flotilla.Net.Network
import Flotilla.Net.Probe
import Flotilla.Net.SocketAddress
import Flotilla.Net.Uri
import Flotilla.Process
import Flotilla.Retry.Policy
import Flotilla.Retry.Run
import Flotilla.Server.Listener
import Flotilla.Server.Router
import Flotilla.Shell.Escape
import Flotilla.Shell.Expansion
import Flotilla.Shell.Filter
import Flotilla.Shell.Flow
import Flotilla.Shell.Printing
import Flotilla.Shell.Run
import Flotilla.Shell.Script
import Flotilla.Shell.Token
import Flotilla.Shell.Utility
import Flotilla.Text.Blank
import Flotilla.Text.JsonString
import Flotilla.Text.Lines
import Flotilla.Text.Numeral
import Flotilla.Text.Printable
import Flotilla.Text.Quoted
import Flotilla.Text.Shortest
import Flotilla.Text.Split
import Flotilla.Text.Utf8
import Flotilla.Time.Spacing
import Flotilla.Time.Span
import Flotilla.Tools.Docker
import Flotilla.Tools.Host
import Flotilla.Tools.Inventory
import Flotilla.Tools.Kind
import Flotilla.Tools.Outcome
import Flotilla.Tools.Scripted
import Flotilla.Tools.Sweep
import Flotilla.Tools.SystemError
import Flotilla.Yaml.Cursor
import Flotilla.Yaml.Document
import Flotilla.Yaml.Node
import Flotilla.Yaml.Scalar
import Flotilla.Instance.Attempt
import Flotilla.Proofs.Fleet.Moves
import Flotilla.Proofs.Fleet.Calls
import Flotilla.Proofs.Fleet.Convergence
import Flotilla.Proofs.Fleet.Stages
import Flotilla.Proofs.Fleet.Chronicle
import Flotilla.Proofs.Fleet.Lifespans
import Flotilla.Proofs.Metrics.Index
import Flotilla.Proofs.Fleet.Labels
import Flotilla.Proofs.Metrics.History
import Flotilla.Proofs.Metrics.Tokens
import Flotilla.Proofs.Metrics.Meaning
import Flotilla.Proofs.Retry.Undisturbed
import Flotilla.Proofs.Retry.Account
import Flotilla.Proofs.Retry.Timing
import Flotilla.Proofs.Retry.Disturbed
import Flotilla.Proofs.Retry.Polling
import Flotilla.Proofs.Bootstrap.Tries
import Flotilla.Proofs.Bootstrap.CutShort
import Flotilla.Proofs.Bootstrap.FirstWorking
import Flotilla.Proofs.Instance.Launching
import Flotilla.Proofs.Fleet.Interruptions
import Flotilla.Proofs.Fleet.Samples
import Flotilla.Proofs.Fleet.Accounting
import Flotilla.Proofs.Instance.Reasons
import Flotilla.Proofs.Fleet.Shutdown
import Flotilla.Proofs.Controllers.Stopping
import Flotilla.Proofs.Controllers.Schedule
import Flotilla.Proofs.Time.Order
import Flotilla.Proofs.Instance.Silence
import Flotilla.Proofs.Metrics.Series
import Flotilla.Proofs.Fleet.Settled
import Flotilla.Proofs.Fleet.View
import Flotilla.Proofs.Fleet.Isolation
import Flotilla.Proofs.Fleet.Endings
import Flotilla.Proofs.Instance.Gate
import Flotilla.Proofs.Instance.Records
import Flotilla.Proofs.Instance.Rounds
import Flotilla.Proofs.Apiserver.Stores
import Flotilla.Proofs.Controllers.Backends
import Flotilla.Proofs.Controllers.Journal
import Flotilla.Proofs.Controllers.Transitions
import Flotilla.Proofs.Controllers.Workers
import Flotilla.Proofs.Fleet.Belated
import Flotilla.Proofs.Fleet.Loop
import Flotilla.Proofs.Text.Pieces
import Flotilla.Proofs.FeatureGates.Grammar
import Flotilla.Proofs.FeatureGates.RoundTrip
import Flotilla.Proofs.Text.Decoding
import Flotilla.Proofs.Tools.Answers
import Flotilla.Proofs.Settings.Acceptance
import Flotilla.Proofs.Tools.Sweeping
import Flotilla.Proofs.Apiserver.Lifecycle
import Flotilla.Proofs.Instance.Handles
import Flotilla.Proofs.Retry.Bounds
import Flotilla.Proofs.Instance.Waits
import Flotilla.Proofs.Metrics.Written
import Flotilla.Proofs.Text.Entries
import Flotilla.Proofs.Retry.Delays
import Flotilla.Proofs.Fleet.Naming
