import NotificationDispatch.Domain
import NotificationDispatch.Queue
import NotificationDispatch.Store
import NotificationDispatch.Process
import NotificationDispatch.Service
import NotificationDispatch.Worker
import NotificationDispatch.Poller
import NotificationDispatch.System
import NotificationDispatch.Moves
import NotificationDispatch.Validity
import NotificationDispatch.RetrySchedule
import NotificationDispatch.Coherence
import NotificationDispatch.Lifecycle
import NotificationDispatch.Idempotency
import NotificationDispatch.Schedule
import NotificationDispatch.Batches
import NotificationDispatch.Tokens
import NotificationDispatch.Retries
import NotificationDispatch.Listing
import NotificationDispatch.Handler
import NotificationDispatch.ListSql
import NotificationDispatch.Reads
import NotificationDispatch.MockRepo
import NotificationDispatch.Frozen
import NotificationDispatch.ReadBack
import NotificationDispatch.Shutdown
import NotificationDispatch.Stranded
import NotificationDispatch.Outcome
