import Dics.Lib.Transactions
import Dics.Lib.Words
import Dics.Lib.Texts
import Dics.Lib.Doubles
import Dics.Lib.Roles
import Dics.Lib.Tokens
import Dics.Lib.Totals
import Dics.Lib.Filing
import Dics.Lib.RateWindow
import Dics.Lib.TypedData
import Dics.Lib.Scripts
import Dics.Lib.Replay
import Dics.Lib.Bodies
import Dics.Lib.Spans
import Dics.Lib.Pairings
import Dics.Lib.Der
import Dics.Lib.Tilings
import Dics.Lib.Reminders
import Dics.Lib.Paths
import Dics.Lib.Quorums
import Dics.Lib.EventLogs
import Dics.Lib.Allowances
import Dics.Lib.Calldata
import Dics.Chain.Basic
import Dics.Chain.ClaimRegistry
import Dics.Chain.RegistryCalls
import Dics.Chain.RegistryRuns
import Dics.Chain.ClaimBook
import Dics.Chain.Payouts
import Dics.Chain.StuckPayouts
import Dics.Chain.RateLimit
import Dics.Chain.InsurancePolicy
import Dics.Chain.PolicyCalls
import Dics.Chain.PolicyRuns
import Dics.Chain.Insurance
import Dics.Chain.Coverage
import Dics.Chain.Provenance
import Dics.Chain.Eligibility
import Dics.Chain.Premiums
import Dics.Chain.Subscriptions
import Dics.Chain.Narrowing
import Dics.Chain.StableCoin
import Dics.Chain.Vault
import Dics.Chain.Cdp
import Dics.Chain.Solvency
import Dics.Chain.Liquidation
import Dics.Chain.Liveness
import Dics.Chain.OracleAdapter
import Dics.Chain.OracleRuns
import Dics.Chain.RelayOrder
import Dics.Chain.Paymaster
import Dics.Chain.Ledgers
import Dics.Chain.Emergency
import Dics.Chain.Authority
import Dics.Chain.Closures
import Dics.Chain.Backlog
import Dics.Chain.Positions
import Dics.Chain.Overlaps
import Dics.Chain.RegistryAbi
import Dics.Indexer.Events
import Dics.Indexer.Columns
import Dics.Indexer.Handlers
import Dics.Indexer.Refusals
import Dics.Indexer.Listener
import Dics.Indexer.Recovery
import Dics.Indexer.Mirror
import Dics.Indexer.PolicyMirror
import Dics.Indexer.Scan
import Dics.Indexer.Passes
import Dics.Indexer.Rescans
import Dics.Underwriter.Worklist
import Dics.Backend.OracleService
import Dics.Backend.Signing
import Dics.Backend.Verification
import Dics.Backend.Idempotency
import Dics.Backend.Webhook
import Dics.Backend.Interleaving
import Dics.Backend.Auth
import Dics.Backend.OracleClient
import Dics.Backend.ReusedKeys
import Dics.Backend.Sessions
import Dics.Backend.PolicyRoutes
import Dics.Documents.Merkle
import Dics.Documents.Evidence
import Dics.Documents.Storage
import Dics.Documents.Uploads
import Dics.Documents.Roots
import Dics.SafeOps.DerUtils
import Dics.SafeOps.KmsSigner
import Dics.SafeOps.Offboarding
import Dics.SafeOps.Decisions
import Dics.Notifications.Scheduler
import Dics.Notifications.Warnings
import Dics.Notifications.Pipeline
import Dics.Notifications.Recipients
import Dics.Frontend.Purchases
import Dics.Frontend.Filings
import Dics.Frontend.Logins
import Dics.Frontend.Inquiries
