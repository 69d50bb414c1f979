import SignIn.Account.Request
import SignIn.Account.User
import SignIn.Account.Validation
import SignIn.Attempt
import SignIn.Dialogue
import SignIn.Digest.Argon2
import SignIn.Digest.Blake2b
import SignIn.Digest.Hmac
import SignIn.Digest.Sha256
import SignIn.Domain.Characters
import SignIn.Domain.Direction
import SignIn.Domain.Name
import SignIn.Domain.Punycode
import SignIn.Failure.Identity
import SignIn.Failure.Outbox
import SignIn.Failure.Report
import SignIn.Failure.Storage
import SignIn.Failure.Token
import SignIn.Failure.Written
import SignIn.Json.Basic
import SignIn.Json.Draft
import SignIn.Json.Number
import SignIn.Json.Parser
import SignIn.Json.Printer
import SignIn.Json.Record
import SignIn.Json.Shortest
import SignIn.LoginNotice
import SignIn.LoginWorker
import SignIn.Outbox.Delivery
import SignIn.Outbox.Event
import SignIn.Outbox.Table
import SignIn.Outbox.Worker
import SignIn.Password.Hash
import SignIn.Password.Text
import SignIn.Proofs.AccessTokens
import SignIn.Proofs.Accounts
import SignIn.Proofs.Atomicity
import SignIn.Proofs.AttemptBudget
import SignIn.Proofs.Authentication
import SignIn.Proofs.Backlog
import SignIn.Proofs.Base64Text
import SignIn.Proofs.BatchAccounts
import SignIn.Proofs.BatchCalls
import SignIn.Proofs.Calendar
import SignIn.Proofs.ClientStatuses
import SignIn.Proofs.CountDuty
import SignIn.Proofs.Courses
import SignIn.Proofs.DatabaseService
import SignIn.Proofs.DecimalText
import SignIn.Proofs.Deliveries
import SignIn.Proofs.DeliveryCounts
import SignIn.Proofs.DrainDeadline
import SignIn.Proofs.Enqueuing
import SignIn.Proofs.ExactRevocation
import SignIn.Proofs.FaultyStore
import SignIn.Proofs.ForwardRows
import SignIn.Proofs.GivenUp
import SignIn.Proofs.GracePeriod
import SignIn.Proofs.Hindrances
import SignIn.Proofs.Histories
import SignIn.Proofs.JsonRecords
import SignIn.Proofs.JsonStrings
import SignIn.Proofs.JsonText
import SignIn.Proofs.KeptData
import SignIn.Proofs.LoginDelivery
import SignIn.Proofs.LoginPayload
import SignIn.Proofs.Moments
import SignIn.Proofs.NoticeTask
import SignIn.Proofs.OldestFirst
import SignIn.Proofs.PasswordText
import SignIn.Proofs.PasswordVerdicts
import SignIn.Proofs.PhoneNumbers
import SignIn.Proofs.Questions
import SignIn.Proofs.RefreshExpiry
import SignIn.Proofs.RefreshVerdict
import SignIn.Proofs.RegisteredPhones
import SignIn.Proofs.RegistrationRules
import SignIn.Proofs.Repositories
import SignIn.Proofs.Results
import SignIn.Proofs.Rfc3339Text
import SignIn.Proofs.Rows
import SignIn.Proofs.SchemaMeaning
import SignIn.Proofs.SchemaRows
import SignIn.Proofs.ScopeRouting
import SignIn.Proofs.SettingsRoundTrip
import SignIn.Proofs.SettingsVariables
import SignIn.Proofs.Sha256Rounds
import SignIn.Proofs.SharedDelivery
import SignIn.Proofs.Signals
import SignIn.Proofs.Signings
import SignIn.Proofs.Site
import SignIn.Proofs.StatementMeaning
import SignIn.Proofs.StoredRows
import SignIn.Proofs.Terms
import SignIn.Proofs.TimesRead
import SignIn.Proofs.TokenExpiry
import SignIn.Proofs.TokenRecords
import SignIn.Proofs.TokenRoundTrip
import SignIn.Proofs.TokenSoundness
import SignIn.Proofs.Transcripts
import SignIn.Proofs.UniqueIndexes
import SignIn.Proofs.UnitLifecycle
import SignIn.Proofs.UuidText
import SignIn.Proofs.WireNotices
import SignIn.Proofs.WireRecords
import SignIn.Proofs.Withdrawal
import SignIn.Proofs.WorkerLife
import SignIn.Proofs.WorkerTrace
import SignIn.Proofs.Workers
import SignIn.RefreshToken
import SignIn.Rehearsal.BrokerScript
import SignIn.Rehearsal.Chance
import SignIn.Rehearsal.Labels
import SignIn.Rehearsal.Mishaps
import SignIn.Rehearsal.OutboxBench
import SignIn.Rehearsal.OutboxScript
import SignIn.Rehearsal.ServiceBench
import SignIn.Rehearsal.ServiceScript
import SignIn.Rehearsal.SqlScript
import SignIn.Rehearsal.TokenScript
import SignIn.Rehearsal.UnitScript
import SignIn.Rehearsal.WorkerScript
import SignIn.Service.Call
import SignIn.Service.Operations
import SignIn.Service.Store
import SignIn.Settings.Dotenv
import SignIn.Settings.Environment
import SignIn.Settings.Settings
import SignIn.Sql.Connection
import SignIn.Sql.Outbox
import SignIn.Sql.Pool
import SignIn.Sql.RefreshTokens
import SignIn.Sql.Row
import SignIn.Sql.Schema
import SignIn.Sql.Statement
import SignIn.Sql.Target
import SignIn.Sql.Users
import SignIn.TaskQueue.Broker
import SignIn.TaskQueue.Envelope
import SignIn.TaskQueue.Location
import SignIn.TaskQueue.Task
import SignIn.Text.Alphanumeric
import SignIn.Text.Base64
import SignIn.Text.Blank
import SignIn.Text.Boundaries
import SignIn.Text.Bytes
import SignIn.Text.Decimal
import SignIn.Text.DecimalDigit
import SignIn.Text.Hex
import SignIn.Text.Percent
import SignIn.Text.Quoted
import SignIn.Text.Split
import SignIn.Text.Utf8
import SignIn.Time.Calendar
import SignIn.Time.Rfc3339
import SignIn.Time.Timestamp
import SignIn.Token.Claims
import SignIn.Token.Header
import SignIn.Token.Signed
import SignIn.UnitOfWork.Coordinator
import SignIn.UnitOfWork.Ledger
import SignIn.UnitOfWork.Options
import SignIn.Url.Host
import SignIn.Url.IpAddress
import SignIn.Url.Parser
import SignIn.Url.Path
import SignIn.Uuid
