import CloudOrchestration.Client.Opening
import CloudOrchestration.Client.Provisioning
import CloudOrchestration.Client.Teardown
import CloudOrchestration.Proofs.Channel.Exchanges
import CloudOrchestration.Proofs.Channel.Looks
import CloudOrchestration.Proofs.Channel.Monitored
import CloudOrchestration.Proofs.Channel.Operations
import CloudOrchestration.Proofs.Channel.OptionalReads
import CloudOrchestration.Proofs.Channel.Outcomes
import CloudOrchestration.Proofs.Channel.Retries
import CloudOrchestration.Proofs.Channel.Timing
import CloudOrchestration.Proofs.Channel.Waits
import CloudOrchestration.Proofs.Channel.Yields
import CloudOrchestration.Proofs.Client.Deadlines
import CloudOrchestration.Proofs.Client.Discipline
import CloudOrchestration.Proofs.Client.Locks
import CloudOrchestration.Proofs.Client.Lookup
import CloudOrchestration.Proofs.Client.Operations
import CloudOrchestration.Proofs.Client.Rules
import CloudOrchestration.Proofs.DataDisks.Exclusion
import CloudOrchestration.Proofs.DataDisks.Making
import CloudOrchestration.Proofs.Document.Faithful
import CloudOrchestration.Proofs.Document.Outlines
import CloudOrchestration.Proofs.Document.Types
import CloudOrchestration.Proofs.Json.Bytes
import CloudOrchestration.Proofs.Json.Completeness
import CloudOrchestration.Proofs.Json.Grammar
import CloudOrchestration.Proofs.Json.Members
import CloudOrchestration.Proofs.Json.Numerals
import CloudOrchestration.Proofs.Json.Places
import CloudOrchestration.Proofs.Json.RoundTrip
import CloudOrchestration.Proofs.Json.Soundness
import CloudOrchestration.Proofs.Json.Strings
import CloudOrchestration.Proofs.Json.Text
import CloudOrchestration.Proofs.Lifecycle.Courses
import CloudOrchestration.Proofs.Lifecycle.Effects
import CloudOrchestration.Proofs.Lifecycle.Session
import CloudOrchestration.Proofs.Lifecycle.Tracking
import CloudOrchestration.Proofs.Network.Additions
import CloudOrchestration.Proofs.Network.Connection
import CloudOrchestration.Proofs.Network.Coverage
import CloudOrchestration.Proofs.Network.Deletion
import CloudOrchestration.Proofs.Network.Editing
import CloudOrchestration.Proofs.Network.Flag
import CloudOrchestration.Proofs.Network.Gateways
import CloudOrchestration.Proofs.Network.Gating
import CloudOrchestration.Proofs.Network.Names
import CloudOrchestration.Proofs.Network.Rewrites
import CloudOrchestration.Proofs.Network.Unchanged
import CloudOrchestration.Proofs.Network.Updates
import CloudOrchestration.Proofs.Provisioning.Booting
import CloudOrchestration.Proofs.Provisioning.Compensation
import CloudOrchestration.Proofs.Provisioning.Creation
import CloudOrchestration.Proofs.Provisioning.Headroom
import CloudOrchestration.Proofs.Provisioning.Legs
import CloudOrchestration.Proofs.Provisioning.Orphans
import CloudOrchestration.Proofs.Provisioning.Phases
import CloudOrchestration.Proofs.Provisioning.Placing
import CloudOrchestration.Proofs.Provisioning.Plain
import CloudOrchestration.Proofs.Provisioning.Race
import CloudOrchestration.Proofs.Provisioning.Reservation
import CloudOrchestration.Proofs.Provisioning.Routing
import CloudOrchestration.Proofs.Provisioning.Serial
import CloudOrchestration.Proofs.Provisioning.Submission
import CloudOrchestration.Proofs.Schedule.Accounts
import CloudOrchestration.Proofs.Schedule.Budgets
import CloudOrchestration.Proofs.Schedule.Clocked
import CloudOrchestration.Proofs.Schedule.Conclusions
import CloudOrchestration.Proofs.Schedule.Contenders
import CloudOrchestration.Proofs.Schedule.Contention
import CloudOrchestration.Proofs.Schedule.Exclusion
import CloudOrchestration.Proofs.Schedule.Fairness
import CloudOrchestration.Proofs.Schedule.Independence
import CloudOrchestration.Proofs.Schedule.Opening
import CloudOrchestration.Proofs.Schedule.Prompt
import CloudOrchestration.Proofs.Schedule.Sections
import CloudOrchestration.Proofs.Schedule.Solo
import CloudOrchestration.Proofs.Schedule.Unfolding
import CloudOrchestration.Proofs.Schedule.Waits
import CloudOrchestration.Proofs.Teardown.Cabinet
import CloudOrchestration.Proofs.Teardown.Companions
import CloudOrchestration.Proofs.Teardown.Extent
import CloudOrchestration.Proofs.Teardown.Removal
import CloudOrchestration.Proofs.Teardown.RoleLists
import CloudOrchestration.Proofs.Teardown.Steps
import CloudOrchestration.Proofs.Teardown.Sweep
import CloudOrchestration.Proofs.Workflow.Accounts
import CloudOrchestration.Proofs.Workflow.Alone
import CloudOrchestration.Proofs.Workflow.Clocked
import CloudOrchestration.Proofs.Workflow.Monitor
import CloudOrchestration.Proofs.Workflow.Polling
import CloudOrchestration.Proofs.Workflow.Retries
import CloudOrchestration.Proofs.Workflow.Sight
import CloudOrchestration.Proofs.Workflow.Timing
import CloudOrchestration.Schedule.Run
import CloudOrchestration.Settings.Environment
import CloudOrchestration.Settings.File
import CloudOrchestration.Simulation.Script
