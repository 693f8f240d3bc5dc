import RmaPortal.Accounts.DashboardHistory
import RmaPortal.Accounts.DashboardPage
import RmaPortal.Accounts.Deactivation
import RmaPortal.Accounts.Directory
import RmaPortal.Accounts.LastAdmin
import RmaPortal.Accounts.Provenance
import RmaPortal.Accounts.ReadMarks
import RmaPortal.Accounts.Sessions
import RmaPortal.Accounts.Standing
import RmaPortal.Accounts.UnreadHistory
import RmaPortal.Accounts.Users
import RmaPortal.Application.Acknowledgement
import RmaPortal.Application.Administration
import RmaPortal.Application.Dashboard
import RmaPortal.Application.DashboardCounts
import RmaPortal.Application.DossierService
import RmaPortal.Application.EmployeeTransactions
import RmaPortal.Application.Notes
import RmaPortal.Application.SharedQueue
import RmaPortal.Application.SyncService
import RmaPortal.Bootstrap
import RmaPortal.Connection.Grants
import RmaPortal.Connection.Handover
import RmaPortal.Connection.Invariant
import RmaPortal.Connection.Order
import RmaPortal.Connection.Places
import RmaPortal.Connection.Programs
import RmaPortal.Connection.Sharing
import RmaPortal.Connection.Shutdown
import RmaPortal.Connection.Stages
import RmaPortal.Coroutine.Basic
import RmaPortal.Coroutine.Brackets
import RmaPortal.Coroutine.Calls
import RmaPortal.Coroutine.Environment
import RmaPortal.Coroutine.Handlers
import RmaPortal.Coroutine.Loop
import RmaPortal.Coroutine.Pool
import RmaPortal.Coroutine.Turns
import RmaPortal.Data.Feed
import RmaPortal.Data.Files
import RmaPortal.Data.Query
import RmaPortal.Data.SingleFlight
import RmaPortal.Data.StableSort
import RmaPortal.Data.Table
import RmaPortal.Data.Text
import RmaPortal.Data.VersionedCell
import RmaPortal.Domain.Models
import RmaPortal.Domain.SyncRules
import RmaPortal.Infrastructure.DashboardQuery
import RmaPortal.Infrastructure.Database
import RmaPortal.Infrastructure.Employees
import RmaPortal.Infrastructure.Portal.CamoufoxReader
import RmaPortal.Infrastructure.Portal.Json
import RmaPortal.Infrastructure.Portal.JsonDecoder
import RmaPortal.Infrastructure.Portal.JsonEncoder
import RmaPortal.Infrastructure.Portal.JsonRoundTrip
import RmaPortal.Infrastructure.Portal.PageReader
import RmaPortal.Infrastructure.Portal.Parser
import RmaPortal.Infrastructure.Portal.ProfileLock
import RmaPortal.Infrastructure.Portal.SessionConnector
import RmaPortal.Infrastructure.Portal.SessionSetup
import RmaPortal.Infrastructure.Portal.SessionState
import RmaPortal.Infrastructure.Portal.WindowWait
import RmaPortal.Infrastructure.Repositories
import RmaPortal.Infrastructure.Scheduler
import RmaPortal.Infrastructure.Security
import RmaPortal.Infrastructure.UnitOfWork
import RmaPortal.Infrastructure.Workflows
import RmaPortal.Migration.MultiWorkflow
import RmaPortal.Presence.Basic
import RmaPortal.Presence.Freshness
import RmaPortal.Profile.Exclusion
import RmaPortal.Profile.Finality
import RmaPortal.Profile.Locking
import RmaPortal.Profile.LoginWindow
import RmaPortal.Profile.Opening
import RmaPortal.Profile.Phases
import RmaPortal.Profile.Tasks
import RmaPortal.Reading.Authentication
import RmaPortal.Reading.DateFormats
import RmaPortal.Reading.Dates
import RmaPortal.Reading.Details
import RmaPortal.Reading.Queue
import RmaPortal.Requests
import RmaPortal.Session.Files
import RmaPortal.Session.Origins
import RmaPortal.Session.Restoring
import RmaPortal.Session.Saving
import RmaPortal.Session.Tolerance
import RmaPortal.SingleFlight.Execute
import RmaPortal.SingleFlight.Scheduler
import RmaPortal.SingleFlight.Turns
import RmaPortal.Synchronization.Absences
import RmaPortal.Synchronization.Appearances
import RmaPortal.Synchronization.Books
import RmaPortal.Synchronization.CapturedDates
import RmaPortal.Synchronization.Counters
import RmaPortal.Synchronization.DetailQueue
import RmaPortal.Synchronization.DetailReads
import RmaPortal.Synchronization.DetailRefresh
import RmaPortal.Synchronization.DetailSaves
import RmaPortal.Synchronization.Endings
import RmaPortal.Synchronization.Interleaving
import RmaPortal.Synchronization.Interruptions
import RmaPortal.Synchronization.Lifecycle
import RmaPortal.Synchronization.Mirror
import RmaPortal.Synchronization.Notifications
import RmaPortal.Synchronization.OpenTransactions
import RmaPortal.Synchronization.Orders
import RmaPortal.Synchronization.PollEffect
import RmaPortal.Synchronization.Reconciliation
import RmaPortal.Synchronization.Records
import RmaPortal.Synchronization.Reports
import RmaPortal.Synchronization.Runs
import RmaPortal.Synchronization.SessionExpiry
import RmaPortal.Synchronization.Sightings
import RmaPortal.Synchronization.Transactions
import RmaPortal.Synchronization.Unfinished
import RmaPortal.Synchronization.Untouched
import RmaPortal.Synchronization.WorkRows
import RmaPortal.Unread.Acknowledging
import RmaPortal.Unread.Harmless
import RmaPortal.Unread.History
import RmaPortal.Unread.Marks
import RmaPortal.Waiting.Outcome
import RmaPortal.Waiting.Polls
import RmaPortal.Waiting.Programs
import RmaPortal.Waiting.Stages
import RmaPortal.Web.Blocking
import RmaPortal.Web.Routes
import RmaPortal.Web.Site
import RmaPortal.Web.Workplace
import RmaPortal.Work.LostUpdate
