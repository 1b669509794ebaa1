import FleetRollout.CommandLine.World
import FleetRollout.Main
import FleetRollout.Wizard.World
import FleetRollout.Proofs.Rollout.Starts
import FleetRollout.Proofs.Rollout.Validity
import FleetRollout.Proofs.Rollout.Distribution
import FleetRollout.Proofs.Selection.Derivation
import FleetRollout.Proofs.Selection.Completeness
import FleetRollout.Proofs.Selection.Addressing
import FleetRollout.Proofs.Selection.Scheduling
import FleetRollout.Proofs.Wizard.Editing
import FleetRollout.Proofs.Wizard.Settling
import FleetRollout.Proofs.Wizard.Submission
import FleetRollout.Proofs.Wizard.Effect
import FleetRollout.Proofs.Wizard.Change
import FleetRollout.Proofs.Wizard.History
import FleetRollout.Proofs.Wizard.Consistency
import FleetRollout.Proofs.Wizard.Tickets
import FleetRollout.Proofs.Wizard.Sending
import FleetRollout.Proofs.Wizard.Phasing
import FleetRollout.Proofs.Wizard.Asking
import FleetRollout.Proofs.Wizard.Targeting
import FleetRollout.Proofs.Storage.Preset
import FleetRollout.Proofs.Wizard.Guard
import FleetRollout.Proofs.Wizard.Lifecycle
import FleetRollout.Proofs.Wizard.Opening
import FleetRollout.Proofs.Wizard.Loading
import FleetRollout.Proofs.Wizard.Choices
import FleetRollout.Proofs.Selection.Contents
import FleetRollout.Proofs.Wizard.Capabilities
import FleetRollout.Proofs.Wizard.Filtering
import FleetRollout.Proofs.Fleet.GroupCounts
import FleetRollout.Proofs.Wizard.Resting
import FleetRollout.Proofs.Wizard.Reopening
import FleetRollout.Proofs.CommandLine.Parts
import FleetRollout.Proofs.CommandLine.Traffic
import FleetRollout.Proofs.CommandLine.Preparation
import FleetRollout.Proofs.CommandLine.Accepting
import FleetRollout.Proofs.CommandLine.Defining
import FleetRollout.Proofs.CommandLine.Creation
import FleetRollout.Proofs.Json.Rereading
import FleetRollout.Proofs.Time.Text
import FleetRollout.Proofs.Deployment.Request
import FleetRollout.Proofs.CommandLine.DryRun
import FleetRollout.Proofs.CommandLine.Files
import FleetRollout.Proofs.CommandLine.Wire
import FleetRollout.Proofs.CommandLine.Once
import FleetRollout.Proofs.Dict
import FleetRollout.Proofs.Fleet.WriteOrder
import FleetRollout.Proofs.Wizard.Arrivals
import FleetRollout.Proofs.Wizard.Counting
import FleetRollout.Proofs.Fleet.Restoring
import FleetRollout.Proofs.Selection.Restoring
import FleetRollout.Proofs.Deployment.Restoring
import FleetRollout.Proofs.Rollout.Suitability
import FleetRollout.Proofs.Rollout.Claiming
import FleetRollout.Proofs.Rollout.Anchors
import FleetRollout.Proofs.Text.Pieces
import FleetRollout.Proofs.Rollout.PatternText
import FleetRollout.Proofs.Storage.Disk
import FleetRollout.Proofs.Storage.Remembering
import FleetRollout.Proofs.Storage.Rereading
import FleetRollout.Proofs.Storage.Chaining
import FleetRollout.Proofs.Selection.Naming
import FleetRollout.Http.Redirect
import FleetRollout.Proofs.Http.Segments
import FleetRollout.Proofs.Http.Appending
import FleetRollout.Proofs.Http.Query
import FleetRollout.Proofs.Http.Addressing
import FleetRollout.Proofs.Wizard.Touring
import FleetRollout.Proofs.Text.Component
import FleetRollout.Proofs.Json.Omitting
import FleetRollout.Proofs.Storage.Completing
