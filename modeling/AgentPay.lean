import AgentPay.Support.Machine
import AgentPay.Support.Table
import AgentPay.Support.RowLock
import AgentPay.Support.Digits
import AgentPay.Support.Batch
import AgentPay.Support.AtMostOnce
import AgentPay.Support.Quoted
import AgentPay.Support.Json
import AgentPay.Values
import AgentPay.Policy
import AgentPay.Schema
import AgentPay.Repositories
import AgentPay.Ledger
import AgentPay.Orchestrator
import AgentPay.Worker
import AgentPay.Webhooks
import AgentPay.Lifecycle
import AgentPay.Settlement
import AgentPay.Authorization
import AgentPay.Control
import AgentPay.Api
import AgentPay.PaymentView
import AgentPay.Effects
import AgentPay.PaymentStep
import AgentPay.Simulation.Worker
import AgentPay.Simulation.Webhooks
import AgentPay.Simulation.Lifecycle
import AgentPay.Simulation.Requests
import AgentPay.Simulation.Creation
import AgentPay.System
import AgentPay.Runs
import AgentPay.CaptureLedger
import AgentPay.Agreement
import AgentPay.Terminal
import AgentPay.BudgetRows
import AgentPay.BudgetConcurrency
import AgentPay.OperationRows
import AgentPay.OperationKeys
import AgentPay.Charging
import AgentPay.WorkerRetries
import AgentPay.WebhookOnce
import AgentPay.Execution
import AgentPay.Acceptance
import AgentPay.WebhookRecovery
import AgentPay.Failures
import AgentPay.LateOutcome
import AgentPay.Decisions
import AgentPay.Coherence
import AgentPay.Service
import AgentPay.OneAmount
import AgentPay.Denials
import AgentPay.Announcements
import AgentPay.Controls
import AgentPay.Approvals
import AgentPay.Idempotency
import AgentPay.Authority
import AgentPay.Fingerprints
import AgentPay.Redaction
import AgentPay.Text
import AgentPay.PolicyOrder
import AgentPay.PolicyRules
import AgentPay.Schedule
import AgentPay.Ingestion
import AgentPay.Endpoints
import AgentPay.References
import AgentPay.Outbox
import AgentPay.OutboxOnce
import AgentPay.OutboxRetries
import AgentPay.OutboxLeases
import AgentPay.Finalization
import AgentPay.Refunds
import AgentPay.Books
import AgentPay.ExternalSafety
import AgentPay.ServiceCalls
import AgentPay.ServiceKeys
import AgentPay.ServiceBudget
import AgentPay.ServiceCharges
import AgentPay.Router
import AgentPay.Reconciliation
import AgentPay.Journals
import AgentPay.LedgerRefinement
import AgentPay.Reservations
import AgentPay.WorkerRunner
import AgentPay.Assertions
import AgentPay.TypedClaims
import AgentPay.AgentApi
import AgentPay.Draining
import AgentPay.Spending
import AgentPay.StatusMachine
import AgentPay.Providers
import AgentPay.OutboxRounds
import AgentPay.Authentication
import AgentPay.Explanations
import AgentPay.Simulator
import AgentPay.Balances
