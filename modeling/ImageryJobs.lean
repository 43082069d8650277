import ImageryJobs.Cluster.Http
import ImageryJobs.Proofs.Engine.Cleanup
import ImageryJobs.Proofs.Engine.Lifetime
import ImageryJobs.Proofs.Service.Cancellation
import ImageryJobs.Proofs.Service.Report
import ImageryJobs.Simulation.Reading
import ImageryJobs.Simulation.Scenario
import ImageryJobs.Proofs.Failing
import ImageryJobs.Proofs.Engine.Planning
import ImageryJobs.Proofs.Graph.Language
import ImageryJobs.Proofs.Graph.PostOrder
import ImageryJobs.Proofs.Graph.Chains
import ImageryJobs.Proofs.Service.Stages
import ImageryJobs.Proofs.Service.Execution
import ImageryJobs.Proofs.Json.Numerals
import ImageryJobs.Proofs.Engine.Reports
import ImageryJobs.Proofs.Store.Tasks
import ImageryJobs.Proofs.Store.Histories
import ImageryJobs.Proofs.Service.Submission
import ImageryJobs.Proofs.Service.Recording
import ImageryJobs.Proofs.Service.Standing
import ImageryJobs.Proofs.Service.Consistency
import ImageryJobs.Proofs.Cluster.Building
import ImageryJobs.Proofs.Engine.Contracts
import ImageryJobs.Proofs.Engine.Footprint
import ImageryJobs.Proofs.Engine.Moments
import ImageryJobs.Proofs.Engine.Promptness
import ImageryJobs.Proofs.Engine.Serving
import ImageryJobs.Proofs.Simulation.Answers
import ImageryJobs.Proofs.Simulation.Completion
import ImageryJobs.Proofs.Simulation.Provenance
import ImageryJobs.Proofs.Simulation.Sequences
import ImageryJobs.Proofs.Simulation.Sharing
import ImageryJobs.Proofs.Cluster.Deadlines
import ImageryJobs.Proofs.Cluster.Schedule
import ImageryJobs.Proofs.Cluster.Creation
import ImageryJobs.Proofs.Cluster.Provision
import ImageryJobs.Proofs.Engine.Deadlines
import ImageryJobs.Proofs.Engine.Observing
import ImageryJobs.Proofs.Cluster.PodVolumes
import ImageryJobs.Proofs.Cluster.Status
import ImageryJobs.Proofs.Engine.Mounts
import ImageryJobs.Proofs.Engine.Refusals
import ImageryJobs.Proofs.Service.Acceptance
import ImageryJobs.Proofs.Cluster.Logs
import ImageryJobs.Proofs.Engine.Logs
import ImageryJobs.Proofs.Service.Logs
import ImageryJobs.Proofs.Store.Updates
import ImageryJobs.Proofs.Engine.Custody
import ImageryJobs.Proofs.Graph.Location
import ImageryJobs.Proofs.Store.Readback
import ImageryJobs.Proofs.Engine.PlanFaults
import ImageryJobs.Proofs.Engine.Reordering
import ImageryJobs.Proofs.Simulation.Replacement
import ImageryJobs.Proofs.Engine.Forms
import ImageryJobs.Proofs.Graph.Suggestions
import ImageryJobs.Proofs.Simulation.Listings
import ImageryJobs.Proofs.Service.Refusals
