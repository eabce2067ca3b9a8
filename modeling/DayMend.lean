import DayMend.Agent.DayPrimitives
import DayMend.Agent.Paths
import DayMend.Agent.PrimitiveSelection
import DayMend.Agent.Pruning
import DayMend.Agent.RepairLoops
import DayMend.Agent.Selections
import DayMend.Base.Store
import DayMend.Base.Rely
import DayMend.Frontend.RecoveryProgress
import DayMend.Frontend.RejectedDay
import DayMend.Progress.Isolation
import DayMend.Progress.Polling
import DayMend.Repositories.RecoveryCases
import DayMend.Runs.Atomicity
import DayMend.Services.PlanInvalidation
import DayMend.Runs.Approval
import DayMend.Runs.CaseTime
import DayMend.Runs.Completion
import DayMend.Runs.Resolution
import DayMend.Runs.TravelFacts
import DayMend.Runs.Undo
import DayMend.Runs.Updates
import DayMend.Runs.ExpectedVersion
import DayMend.Runs.EventIds
import DayMend.Runs.FamilyEdits
import DayMend.Runs.Rejections
import DayMend.Runs.NoOption
import DayMend.Runs.ExactlyOnce
import DayMend.Validation.Agreement
import DayMend.Validation.Booking
import DayMend.Validation.Primitives
import DayMend.Validation.Calendar
import DayMend.Validation.Costs
import DayMend.Validation.Dependents
import DayMend.Validation.Ledger
import DayMend.Validation.Noninterference
import DayMend.Validation.Order
import DayMend.Validation.Partition
import DayMend.Validation.Preservation
import DayMend.Validation.Trajectory
import DayMend.Validation.Worlds
import DayMend.Validation.Revalidation
import DayMend.Validation.Soundness
import DayMend.Validation.DeadEnds
import DayMend.Base.Interpret
import DayMend.Base.Refine
import DayMend.Base.Creates
import DayMend.Agent.Reasoning
import DayMend.Agent.LocalGateway
import DayMend.Agent.RuntimeExecution
import DayMend.Agent.AgentCoreGateway
import DayMend.Agent.Location
import DayMend.Agent.InitialLocation
import DayMend.Application.Deployments
import DayMend.Runs.Deployed
import DayMend.Runs.PlanningAgents
import DayMend.Runs.GroundedRuns
import DayMend.Runs.Statuses
import DayMend.Base.Parts
import DayMend.Application.WholeService
import DayMend.Fixtures.NannyCancellation
import DayMend.Runs.FamilyDays
import DayMend.Runs.WholeRuns
