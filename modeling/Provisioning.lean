import Provisioning.Main
import Provisioning.Program.Transcript
import Provisioning.Request.Json
import Provisioning.Proofs.Waiting
import Provisioning.Proofs.Course
import Provisioning.Proofs.History
import Provisioning.Proofs.SingleFlight
import Provisioning.Proofs.RunShape
import Provisioning.Proofs.FailureReport
import Provisioning.Proofs.CreateReply
import Provisioning.Proofs.HttpRun
import Provisioning.Proofs.Acknowledged
import Provisioning.Proofs.PublishedStates
import Provisioning.Proofs.Binding
import Provisioning.Proofs.Allocator
import Provisioning.Proofs.MoreDraws
import Provisioning.Proofs.Distinct
import Provisioning.Proofs.Compensating
import Provisioning.Proofs.Reentrancy
import Provisioning.Proofs.Afresh
import Provisioning.Proofs.Clients
import Provisioning.Proofs.Watches
import Provisioning.Proofs.Policies
import Provisioning.Proofs.Workspaces
import Provisioning.Proofs.WrittenText
import Provisioning.Proofs.GivenFields
import Provisioning.Proofs.CarriedOut
import Provisioning.Proofs.CreateOutcome
import Provisioning.Proofs.NonemptyNames
import Provisioning.Proofs.GivenOption
import Provisioning.Proofs.EnvFileOption
import Provisioning.Proofs.Postconditions
import Provisioning.Proofs.RunNotices
import Provisioning.Proofs.Executions
import Provisioning.Proofs.AnnouncedPolicy
import Provisioning.Proofs.JsonOutput
import Provisioning.Proofs.ExactWait
import Provisioning.Proofs.PlanSheet
import Provisioning.Proofs.PlannedRun
import Provisioning.Proofs.ExitStatus
import Provisioning.Proofs.EnvFileVariables
import Provisioning.Proofs.FileSettings
import Provisioning.Proofs.Precedence
import Provisioning.Proofs.RetryBudget
import Provisioning.Proofs.Ledger
import Provisioning.Proofs.ContainerUrl
import Provisioning.Proofs.StatusOutcome
import Provisioning.Proofs.ContainerScope
import Provisioning.Proofs.EndpointText
import Provisioning.Proofs.RequestText
import Provisioning.Proofs.Rejection
import Provisioning.Proofs.WrittenOptions
import Provisioning.Proofs.TableLayout
import Provisioning.Proofs.FileLines
import Provisioning.Proofs.AttemptCount
import Provisioning.Proofs.AcceptedForm
