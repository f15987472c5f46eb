import Statechart.Bench.Documents
import Statechart.Bench.Inspection
import Statechart.Bench.Performance
import Statechart.Login.Probe
import Statechart.Login.Session
import Statechart.Proofs.RunToCompletion
import Statechart.Proofs.AbandonedSteps
import Statechart.Proofs.StopDuringStart
import Statechart.Proofs.Deliveries
import Statechart.Proofs.SnapshotOrder
import Statechart.Proofs.Performances
import Statechart.Proofs.Outcomes
import Statechart.Proofs.Macrosteps
import Statechart.Proofs.Announcements
import Statechart.Proofs.Calm
import Statechart.Proofs.Reactions
import Statechart.Proofs.Login.Accounts
import Statechart.Proofs.Login.Keeping
import Statechart.Proofs.Login.Attempts
import Statechart.Proofs.Fuel
import Statechart.Proofs.Solitude
import Statechart.Proofs.Login.Outlines
import Statechart.Proofs.Login.Renewals
import Statechart.Proofs.Login.Transparency
import Statechart.Proofs.Publications
import Statechart.Proofs.Faults
import Statechart.Proofs.FailedStarts
import Statechart.Proofs.Histories
import Statechart.Proofs.Endings
import Statechart.Proofs.Quiescence
import Statechart.Proofs.Walks
import Statechart.Proofs.Forgetting
import Statechart.Proofs.Closure
import Statechart.Proofs.Login.Stores
import Statechart.Proofs.Login.Tallies
import Statechart.Proofs.Drains
import Statechart.Proofs.Limits
import Statechart.Proofs.Leniency
import Statechart.Proofs.Assembly
import Statechart.Proofs.Login.Arrivals
import Statechart.Proofs.Login.Reminders
import Statechart.Proofs.Errands
import Statechart.Proofs.Login.Refusals
import Statechart.Proofs.Login.Calls
import Statechart.Proofs.Retention
import Statechart.Proofs.Archives
import Statechart.Proofs.Login.Configurations
import Statechart.Proofs.Subscriptions
import Statechart.Proofs.Login.Snapshots
import Statechart.Proofs.Coverage
