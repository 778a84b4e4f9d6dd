import Aegis.Library.Action
import Aegis.Library.Base64
import Aegis.Library.Bursts
import Aegis.Library.Calendar
import Aegis.Library.Future
import Aegis.Library.HalfEven
import Aegis.Library.JsString
import Aegis.Library.Json
import Aegis.Library.JsonText
import Aegis.Library.Loop
import Aegis.Library.Number
import Aegis.Library.OnceGuard
import Aegis.Library.Outcome
import Aegis.Library.Paging
import Aegis.Library.PdfLiteral
import Aegis.Library.Run
import Aegis.Library.Sightings
import Aegis.Library.Table
import Aegis.Library.TableParts
import Aegis.Library.Text
import Aegis.Library.Throttle
import Aegis.Library.Transactions
import Aegis.Library.Unwinding
import Aegis.Model.Auth
import Aegis.Model.Billing
import Aegis.Model.CellTelemetry
import Aegis.Model.Coalescing
import Aegis.Model.ConcurrentBilling
import Aegis.Model.ConcurrentKyc
import Aegis.Model.ConcurrentPayments
import Aegis.Model.Dashboards
import Aegis.Model.DemoFlow
import Aegis.Model.DriverFactory
import Aegis.Model.DriverLocation
import Aegis.Model.DriverWeeks
import Aegis.Model.DynamicQCommerce
import Aegis.Model.Eligibility
import Aegis.Model.Features
import Aegis.Model.Fraud
import Aegis.Model.FraudFeatures
import Aegis.Model.FraudModel
import Aegis.Model.FraudReview
import Aegis.Model.FraudScoring
import Aegis.Model.Gateway
import Aegis.Model.Idempotency
import Aegis.Model.IdempotencyCheck
import Aegis.Model.IdentityEndpoints
import Aegis.Model.IdentityStore
import Aegis.Model.Insurance
import Aegis.Model.Kyc
import Aegis.Model.LiquidityPool
import Aegis.Model.MobileClient
import Aegis.Model.Notifications
import Aegis.Model.Orders
import Aegis.Model.Payments
import Aegis.Model.Payout
import Aegis.Model.PayoutEndpoints
import Aegis.Model.Pipeline
import Aegis.Model.Plans
import Aegis.Model.Premium
import Aegis.Model.Pricing
import Aegis.Model.RedisState
import Aegis.Model.ReliableProducer
import Aegis.Model.RiskService
import Aegis.Model.Schema
import Aegis.Model.Trigger
import Aegis.Model.WeeklyPlans
import Aegis.Model.ZoneDrivers
import Aegis.Model.ZoneUpdates
import Aegis.Verification.Billing.AuditTrail
import Aegis.Verification.Billing.Charges
import Aegis.Verification.Billing.Cycles
import Aegis.Verification.Billing.OneDebit
import Aegis.Verification.Billing.PoolCredits
import Aegis.Verification.Billing.Retries
import Aegis.Verification.Billing.RunsAlone
import Aegis.Verification.Billing.Steps
import Aegis.Verification.Billing.WeeksPaid
import Aegis.Verification.Demo.Bystanders
import Aegis.Verification.Demo.Claims
import Aegis.Verification.Demo.Flow
import Aegis.Verification.Demo.Payouts
import Aegis.Verification.Demo.Scoring
import Aegis.Verification.Demo.Settlements
import Aegis.Verification.Demo.Views
import Aegis.Verification.Fraud.Activities
import Aegis.Verification.Fraud.AnalystRace
import Aegis.Verification.Fraud.Devices
import Aegis.Verification.Fraud.Feedback
import Aegis.Verification.Fraud.Movement
import Aegis.Verification.Fraud.Pdf
import Aegis.Verification.Fraud.Polarity
import Aegis.Verification.Fraud.Presence
import Aegis.Verification.Fraud.ReviewWindow
import Aegis.Verification.Fraud.Revoked
import Aegis.Verification.Fraud.Scoreable
import Aegis.Verification.Fraud.Status
import Aegis.Verification.Fraud.Suspension
import Aegis.Verification.Fraud.Warnings
import Aegis.Verification.Identity.AdminTokens
import Aegis.Verification.Identity.AuthFlows
import Aegis.Verification.Identity.CodeBinding
import Aegis.Verification.Identity.Codes
import Aegis.Verification.Identity.DriverIds
import Aegis.Verification.Identity.KycMachine
import Aegis.Verification.Identity.OneAccount
import Aegis.Verification.Identity.OwnerOnly
import Aegis.Verification.Identity.Ownership
import Aegis.Verification.Identity.Provenance
import Aegis.Verification.Identity.Redemptions
import Aegis.Verification.Identity.RefreshHashes
import Aegis.Verification.Identity.RefreshSessions
import Aegis.Verification.Identity.RowWrites
import Aegis.Verification.Identity.SingleUse
import Aegis.Verification.Identity.StoreCalls
import Aegis.Verification.Identity.Uploads
import Aegis.Verification.Identity.Writes
import Aegis.Verification.Insurance.Buyers
import Aegis.Verification.Insurance.Coverage
import Aegis.Verification.Insurance.Deductible
import Aegis.Verification.Insurance.FailClosed
import Aegis.Verification.Insurance.Frames
import Aegis.Verification.Insurance.Intervals
import Aegis.Verification.Insurance.PayoutCalls
import Aegis.Verification.Insurance.Records
import Aegis.Verification.Insurance.Renewals
import Aegis.Verification.Insurance.Reported
import Aegis.Verification.Insurance.SaleGates
import Aegis.Verification.Kafka.Conservation
import Aegis.Verification.Kafka.DeadLetters
import Aegis.Verification.Kafka.NoDuplicates
import Aegis.Verification.Kafka.QueueOrder
import Aegis.Verification.Kafka.Steps
import Aegis.Verification.Liquidity.Conservation
import Aegis.Verification.Liquidity.LostUpdates
import Aegis.Verification.Mobile.Calls
import Aegis.Verification.Mobile.Sessions
import Aegis.Verification.Notifications.Delivery
import Aegis.Verification.Notifications.Inboxes
import Aegis.Verification.Notifications.Pages
import Aegis.Verification.Payments.Booked
import Aegis.Verification.Payments.Equations
import Aegis.Verification.Payments.ExactlyOnce
import Aegis.Verification.Payments.Exclusion
import Aegis.Verification.Payments.Independence
import Aegis.Verification.Payments.Issuing
import Aegis.Verification.Payments.KeyCheck
import Aegis.Verification.Payments.OnePolicy
import Aegis.Verification.Payments.Payable
import Aegis.Verification.Payments.Retry
import Aegis.Verification.Payouts.Amounts
import Aegis.Verification.Payouts.Authorisation
import Aegis.Verification.Payouts.Caps
import Aegis.Verification.Payouts.EventWindow
import Aegis.Verification.Payouts.Frames
import Aegis.Verification.Payouts.GivenInputs
import Aegis.Verification.Payouts.OneEvent
import Aegis.Verification.Payouts.PhantomApprovals
import Aegis.Verification.Payouts.Processing
import Aegis.Verification.Payouts.Requests
import Aegis.Verification.Payouts.RetryPacing
import Aegis.Verification.Payouts.RetryQueue
import Aegis.Verification.Payouts.WalletBalance
import Aegis.Verification.Payouts.ZoneGates
import Aegis.Verification.Portfolio.LossRatio
import Aegis.Verification.Portfolio.Premiums
import Aegis.Verification.Premium.Bounds
import Aegis.Verification.Premium.Cover
import Aegis.Verification.Premium.DriverWeeks
import Aegis.Verification.Premium.Earnings
import Aegis.Verification.Premium.Estimate
import Aegis.Verification.Premium.Issues
import Aegis.Verification.Premium.PlanPage
import Aegis.Verification.Premium.SoftTail
import Aegis.Verification.Premium.TierLadders
import Aegis.Verification.Premium.WeekKeys
import Aegis.Verification.Zones.AirQuality
import Aegis.Verification.Zones.Announcements
import Aegis.Verification.Zones.Breaker
import Aegis.Verification.Zones.CellRuns
import Aegis.Verification.Zones.CellTelemetry
import Aegis.Verification.Zones.Coalescing
import Aegis.Verification.Zones.Dispatch
import Aegis.Verification.Zones.Engines
import Aegis.Verification.Zones.Evidence
import Aegis.Verification.Zones.Fallbacks
import Aegis.Verification.Zones.Features
import Aegis.Verification.Zones.Labels
import Aegis.Verification.Zones.LastWrite
import Aegis.Verification.Zones.Members
import Aegis.Verification.Zones.PipelineTriggers
import Aegis.Verification.Zones.Positions
import Aegis.Verification.Zones.Quotes
import Aegis.Verification.Zones.Retries
import Aegis.Verification.Zones.Sentinel
import Aegis.Verification.Zones.Severity
import Aegis.Verification.Zones.SharedAnswers
import Aegis.Verification.Zones.TextScan
import Aegis.Verification.Zones.Writes
