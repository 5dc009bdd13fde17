import Settlement.Api.Router
import Settlement.Chain.Address
import Settlement.Chain.Answer
import Settlement.Chain.Event
import Settlement.Chain.Failure
import Settlement.Chain.Feed
import Settlement.Chain.Reader
import Settlement.Config
import Settlement.Consumer
import Settlement.DepositQueue
import Settlement.Json.Reader
import Settlement.Proofs.Activity.Marked
import Settlement.Proofs.Activity.Safety
import Settlement.Proofs.Activity.Together
import Settlement.Proofs.Api.Paging
import Settlement.Proofs.Api.PublicIds
import Settlement.Proofs.Api.ReadBack
import Settlement.Proofs.Api.TimeWindow
import Settlement.Proofs.Chain.FeedEnd
import Settlement.Proofs.Chain.FeedOrder
import Settlement.Proofs.Chain.FeedOutcomes
import Settlement.Proofs.Chain.SearchOutcomes
import Settlement.Proofs.Chain.SearchPages
import Settlement.Proofs.Chain.TransactionLookup
import Settlement.Proofs.Chain.Views
import Settlement.Proofs.Consumer.Confluence
import Settlement.Proofs.Consumer.Convergence
import Settlement.Proofs.Consumer.Coverage
import Settlement.Proofs.Consumer.Events
import Settlement.Proofs.Consumer.Delivery
import Settlement.Proofs.Consumer.Exactness
import Settlement.Proofs.Consumer.Finality
import Settlement.Proofs.Consumer.FirstRead
import Settlement.Proofs.Consumer.ForeignEvents
import Settlement.Proofs.Consumer.Gains
import Settlement.Proofs.Consumer.Handling
import Settlement.Proofs.Consumer.Independence
import Settlement.Proofs.Consumer.LateTracking
import Settlement.Proofs.Consumer.Milestones
import Settlement.Proofs.Consumer.Portions
import Settlement.Proofs.Consumer.Questions
import Settlement.Proofs.Consumer.QuotedValues
import Settlement.Proofs.Consumer.Redelivery
import Settlement.Proofs.Consumer.Reference
import Settlement.Proofs.Consumer.SearchedBlocks
import Settlement.Proofs.Consumer.UnknownTransactions
import Settlement.Proofs.DepositQueue.Attempts
import Settlement.Proofs.DepositQueue.Cycle
import Settlement.Proofs.DepositQueue.Identity
import Settlement.Proofs.DepositQueue.LateRelease
import Settlement.Proofs.DepositQueue.Leases
import Settlement.Proofs.DepositQueue.Lifetime
import Settlement.Proofs.DepositQueue.LoneWorker
import Settlement.Proofs.DepositQueue.Recovery
import Settlement.Proofs.DepositQueue.Turns
import Settlement.Proofs.Ledger.Atomicity
import Settlement.Proofs.Ledger.Keys
import Settlement.Proofs.Ledger.ListedOrder
import Settlement.Proofs.Ledger.Offering
import Settlement.Proofs.Ledger.Recording
import Settlement.Proofs.Ledger.Renumbering
import Settlement.Proofs.ReadySignal.Waking
import Settlement.Proofs.Retry.Loop
import Settlement.Proofs.Store.Deposits
import Settlement.Proofs.Store.Effects
import Settlement.Proofs.Store.Growth
import Settlement.Proofs.Store.Lasting
import Settlement.Proofs.Store.Listing
import Settlement.Proofs.Store.Readable
import Settlement.Proofs.Store.Tracking
import Settlement.Proofs.Text.Base64
import Settlement.Proofs.Text.Digits
import Settlement.Proofs.Text.Hex
import Settlement.Proofs.Text.JsonString
import Settlement.Proofs.Text.Padded
import Settlement.Proofs.Time.Instant
import Settlement.Proofs.Time.Shown
import Settlement.Proofs.Time.Written
import Settlement.Proofs.Uuid.Text
import Settlement.Proofs.WorkerPool.HandOver
import Settlement.Proofs.WorkerPool.InFlight
import Settlement.Proofs.WorkerPool.Overtaken
import Settlement.Proofs.WorkerPool.Polling
import Settlement.Proofs.WorkerPool.Turns
import Settlement.ReadySignal
import Settlement.Retry.Backoff
import Settlement.Retry.Run
import Settlement.Simulation
import Settlement.Store.Overwrite
import Settlement.WorkerPool.Timeline
