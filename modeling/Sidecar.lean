import Sidecar.Cluster.Server
import Sidecar.Host.Liveness
import Sidecar.Main
import Sidecar.Probe.Sandbox
import Sidecar.Report
import Sidecar.Storage.Flaky
import Sidecar.Storage.Trial
import Sidecar.Proofs.Registry.Lifetime
import Sidecar.Proofs.Registry.Names
import Sidecar.Proofs.Activity
import Sidecar.Proofs.Host.Contract
import Sidecar.Proofs.Host.World
import Sidecar.Proofs.Host.Call
import Sidecar.Proofs.Host.Instance
import Sidecar.Proofs.Host.Taking
import Sidecar.Proofs.Host.Failure
import Sidecar.Proofs.Host.Retirement
import Sidecar.Proofs.Host.Overlap
import Sidecar.Proofs.Host.Registration
import Sidecar.Proofs.Host.Cache
import Sidecar.Proofs.Host.Launch
import Sidecar.Proofs.Host.Play
import Sidecar.Proofs.Host.Removal
import Sidecar.Proofs.Host.Task
import Sidecar.Proofs.Host.Clock
import Sidecar.Proofs.Host.Ending
import Sidecar.Proofs.Host.Carrier
import Sidecar.Proofs.Host.Polling
import Sidecar.Proofs.Host.Listing
import Sidecar.Proofs.Host.TimedPlay
import Sidecar.Proofs.Host.Schedule
import Sidecar.Proofs.Storage.Attempts
import Sidecar.Proofs.Storage.Retry
import Sidecar.Proofs.Storage.Pace
import Sidecar.Proofs.Storage.Contract
import Sidecar.Proofs.Storage.Calls
import Sidecar.Proofs.Storage.Failure
import Sidecar.Proofs.Storage.Address
import Sidecar.Proofs.Storage.Reach
import Sidecar.Proofs.Storage.Template
import Sidecar.Proofs.Value.Members
import Sidecar.Proofs.Value.Change
import Sidecar.Proofs.Json.Pointer
import Sidecar.Proofs.Storage.Gauges
import Sidecar.Proofs.Storage.Agreement
import Sidecar.Proofs.Storage.Turns
import Sidecar.Proofs.Storage.Setup
import Sidecar.Proofs.Number
import Sidecar.Proofs.Time.Span
import Sidecar.Proofs.Net.Address
import Sidecar.Proofs.Json.Compact
import Sidecar.Proofs.Value.WellFormed
import Sidecar.Proofs.Node.Bounded
import Sidecar.Proofs.Yaml.Bounded
import Sidecar.Proofs.Toml.Bounded
import Sidecar.Proofs.Node.Record
import Sidecar.Proofs.Node.Table
import Sidecar.Proofs.Config.Sound
import Sidecar.Proofs.Config.Environment
import Sidecar.Proofs.Config.Expansion
import Sidecar.Proofs.Config.RoundTrip
import Sidecar.Proofs.Config.Validity
import Sidecar.Proofs.Config.Notation
import Sidecar.Proofs.Storage.Binding
import Sidecar.Proofs.Storage.Replacement
import Sidecar.Proofs.Storage.Key
import Sidecar.Proofs.Probe.Binding
import Sidecar.Proofs.Probe.Tally
import Sidecar.Proofs.Probe.Attempts
import Sidecar.Proofs.Probe.Path
import Sidecar.Proofs.Probe.Conversion
import Sidecar.Proofs.Probe.Extraction
import Sidecar.Proofs.Rehearsal.Waiting
import Sidecar.Proofs.Rehearsal.Stopping
