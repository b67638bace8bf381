import AtomsPlatform.Quality.Canonical
import AtomsPlatform.Release.Restore
import AtomsPlatform.Database.LiveCleanup
import AtomsPlatform.Database.RecoveryAccounting
import AtomsPlatform.Database.Redaction
import AtomsPlatform.Database.SecretReferences
import AtomsPlatform.Database.DeleteSafety
import AtomsPlatform.Events
import AtomsPlatform.Run.ServedRoutes
import AtomsPlatform.Run.SettledTasks
import AtomsPlatform.Run.PendingApproval
import AtomsPlatform.Run.Approvals
import AtomsPlatform.Run.Reminders
import AtomsPlatform.Run.Retention
import AtomsPlatform.Attachment.StatusMachine
import AtomsPlatform.Attachment.Presence
import AtomsPlatform.Attachment.Provenance
import AtomsPlatform.Preview.Gateway
import AtomsPlatform.Preview.Executions
import AtomsPlatform.Database.Idempotency
import AtomsPlatform.Workspace.DatabasePanel
import AtomsPlatform.Workspace.EventFrames
import AtomsPlatform.Gtm.Outreach
import AtomsPlatform.Memory.Books
import AtomsPlatform.Memory.NormalForm
import AtomsPlatform.Memory.Passages
import AtomsPlatform.Memory.Search
import AtomsPlatform.Memory.Embeddings
import AtomsPlatform.Staging.Safety
import AtomsPlatform.Creation.Acknowledged
import AtomsPlatform.Quality.AcceptanceRun
import AtomsPlatform.Run.RepairBudget
import AtomsPlatform.Run.Outcome
import AtomsPlatform.Release.Lifecycle
import AtomsPlatform.Database.CrashSafety
import AtomsPlatform.Run.ThrottledLog
import AtomsPlatform.Run.BudgetLedger
import AtomsPlatform.Release.Histories
import AtomsPlatform.Database.MissingResources
import AtomsPlatform.Preview.ReopenCleanup
import AtomsPlatform.Tenancy.PersonalWorkspaces
import AtomsPlatform.Meetings.Briefs
import AtomsPlatform.Workspace.RunStreams
import AtomsPlatform.Readiness.Recent
