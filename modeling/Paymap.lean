import Paymap.Lib.MachineInt
import Paymap.Lib.FinMap
import Paymap.Lib.Tx
import Paymap.Lib.Runs
import Paymap.Lib.History
import Paymap.Registry.Types
import Paymap.Registry.Host
import Paymap.Registry.Lifecycle
import Paymap.Registry.Charge
import Paymap.Registry.Refund
import Paymap.Registry.Calls
import Paymap.Registry.Books
import Paymap.Token.Spec
import Paymap.Token.Mock
import Paymap.Registry.Safety
import Paymap.Registry.Policy
import Paymap.Registry.Atomicity
import Paymap.Registry.RefundBooks
import Paymap.Lib.Agreements
import Paymap.Registry.Refinement
import Paymap.Registry.Record
import Paymap.Registry.Money
import Paymap.Registry.Provenance
import Paymap.Registry.Receipts
import Paymap.Lib.Prog
import Paymap.Relayer.Tables
import Paymap.Relayer.Transactions
import Paymap.Relayer.Classify
import Paymap.Relayer.Network
import Paymap.Relayer.Pipeline
import Paymap.Relayer.System
import Paymap.Relayer.Protocol
import Paymap.Relayer.Steps
import Paymap.Relayer.Ownership
import Paymap.Relayer.Knowledge
import Paymap.Relayer.Payments
import Paymap.Relayer.Prompt
import Paymap.Relayer.Agreement
import Paymap.Relayer.Authorizations
import Paymap.Stellar.MerchantAuthorization
import Paymap.Api.Completing
import Paymap.Lib.JobQueue
import Paymap.Relayer.Records
import Paymap.Relayer.Consistency
import Paymap.Relayer.Deeds
import Paymap.Relayer.Submissions
import Paymap.Relayer.Edges
import Paymap.Relayer.Attempts
import Paymap.Webhook.Deliveries
import Paymap.Webhook.Worker
import Paymap.Webhook.System
import Paymap.Webhook.Queueing
import Paymap.Webhook.Recovery
import Paymap.Lib.EventLog
import Paymap.Registry.Replay
import Paymap.Registry.Isolation
import Paymap.Registry.Noninterference
import Paymap.Lib.Feed
import Paymap.Indexer.Chain
import Paymap.Indexer.Tables
import Paymap.Indexer.Tick
import Paymap.Indexer.System
import Paymap.Indexer.Protocol
import Paymap.Indexer.Stream
import Paymap.Indexer.Steps
import Paymap.Indexer.Positions
import Paymap.Indexer.Coverage
import Paymap.Indexer.Gaps
import Paymap.Indexer.Deliveries
import Paymap.Indexer.Convergence
import Paymap.Indexer.Mirror
import Paymap.Client.Domain
import Paymap.Shared.Money
import Paymap.Api.Precheck
import Paymap.Api.Products
import Paymap.Api.CheckoutSessions
import Paymap.Api.Authorizations
import Paymap.Web.MandateTerms
import Paymap.Web.Exposure
import Paymap.Web.Checkout
import Paymap.Registry.Completion
import Paymap.Relayer.Completion
import Paymap.Relayer.Announcing
import Paymap.Backend.MandateCompleted
import Paymap.Lib.Json
import Paymap.Lib.Transactions
import Paymap.Api.Idempotency
import Paymap.Api.Moves
import Paymap.Api.Settled
import Paymap.Api.Alone
import Paymap.Api.ExactlyOnce
import Paymap.Api.Replays
import Paymap.Api.Refunds
import Paymap.Api.RefundTotals
import Paymap.Web.MandateStatus
import Paymap.Api.Scheduling
import Paymap.Api.Linking
import Paymap.Api.ApiKeys
import Paymap.Api.Rotations
import Paymap.Lib.Locks
import Paymap.Api.MerchantSessions
import Paymap.Api.SessionMoves
import Paymap.Api.SessionTables
import Paymap.Api.SignIns
import Paymap.Api.SignInSteps
import Paymap.Api.SessionsOver
import Paymap.Relayer.Dispatch
import Paymap.Lib.Hex
import Paymap.Client.Ids
import Paymap.Backend.Spellings
import Paymap.Lib.Js
import Paymap.Shared.WebhookSignature
import Paymap.Webhook.Attempts
import Paymap.Api.MandateList
import Paymap.Relayer.Permanence
import Paymap.Web.Format
import Paymap.Api.Decimals
import Paymap.Lib.IpText
import Paymap.Lib.Replace
import Paymap.Relayer.SecureLogger
import Paymap.Shared.WebhookUrlGuard
import Paymap.Webhook.Http
import Paymap.Lib.JsNumber
import Paymap.Shared.WebhookSecret
import Paymap.Webhook.Envelopes
import Paymap.Webhook.Endpoints
import Paymap.Webhook.Provenance
import Paymap.Webhook.Authenticity
import Paymap.Stellar.Token
import Paymap.Web.CheckoutFlow
import Paymap.Web.CheckoutMoves
import Paymap.Web.OneMandate
import Paymap.Registry.Collectible
import Paymap.Token.Expiring
import Paymap.Web.SharedAllowance
import Paymap.Api.Credentials
import Paymap.Api.Authority
import Paymap.Api.RevokedKeys
