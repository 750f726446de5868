import LdkServerGui.Task
import LdkServerGui.Rust
import LdkServerGui.Api
import LdkServerGui.Config
import LdkServerGui.State
import LdkServerGui.Runtime
import LdkServerGui.App
import LdkServerGui.Poll
import LdkServerGui.Step
import LdkServerGui.Proofs.Trigger
import LdkServerGui.Proofs.Drain
import LdkServerGui.Proofs.Run
import LdkServerGui.Proofs.SingleFlight
import LdkServerGui.Proofs.Delivery
import LdkServerGui.Proofs.Connection
import LdkServerGui.Proofs.ConfigSave
import LdkServerGui.Proofs.ConfigLoad
import LdkServerGui.Proofs.Isolation
import LdkServerGui.Proofs.Requests
import LdkServerGui.Proofs.Lifecycle
import LdkServerGui.Proofs.Handlers
import LdkServerGui.Proofs.Pagination
import LdkServerGui.Proofs.Progress
import LdkServerGui.Proofs.Numbers
import LdkServerGui.Proofs.Results
import LdkServerGui.Proofs.ApiKey
import LdkServerGui.Proofs.ConfigPanel
