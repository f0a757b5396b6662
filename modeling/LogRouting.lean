import LogRouting.Main
import LogRouting.Program.Watched
import LogRouting.Shutdown
import LogRouting.Proofs.Registry.Routing
import LogRouting.Proofs.Dispatch.Failures
import LogRouting.Proofs.Configuration.Running
import LogRouting.Proofs.Settings.Validation
import LogRouting.Proofs.Dispatch.Forwarding
import LogRouting.Proofs.Configuration.Restart
import LogRouting.Proofs.Registry.ClosedGate
import LogRouting.Proofs.Relay.Service
import LogRouting.Proofs.Settings.RoundTrip
import LogRouting.Proofs.Dispatch.Counters
import LogRouting.Proofs.Dispatch.Thresholds
import LogRouting.Proofs.Registry.Order
import LogRouting.Proofs.Program.Agreement
import LogRouting.Proofs.Shutdown
import LogRouting.Proofs.Message.Substitution
import LogRouting.Proofs.TargetSet.Entry
import LogRouting.Proofs.Configuration.Rebinding
import LogRouting.Proofs.Configuration.Reload
import LogRouting.Proofs.Configuration.Idempotence
import LogRouting.Proofs.Configuration.Acceptance
import LogRouting.Proofs.Settings.Defects
import LogRouting.Proofs.Registry.Identity
import LogRouting.Proofs.Relay.Grammar
import LogRouting.Proofs.Configuration.Visits
import LogRouting.Proofs.Message.Rendering
import LogRouting.Proofs.Message.Parameter
import LogRouting.Proofs.Settings.Fields
