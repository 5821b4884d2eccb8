import NotificationDispatch.Queue
import NotificationDispatch.Store

/-! # The dispatcher's goroutines and its shared state

One running dispatcher (`cmd/server/main.go`): the store, the in-memory priority queue, and the
goroutines, each stopped just before its next atomic step. A goroutine is a `Proc`, whose
constructor says which source function it is running and where.

* `Proc.create`, `Proc.createBatch` and `Proc.cancel` are HTTP handlers inside
  `NotificationService.Create`, `CreateBatch` and `Cancel`.
* `Proc.enqueue` is a loop that offers rows to the queue and then writes `queued`, row by row:
  the service's `enqueue` (for `Create`, and for each child of `CreateBatch`) and the loop of
  `RetryWorker.poll` / `SchedulerWorker.poll`. The `Owner` says whose loop it is and what
  follows it.
* `Proc.worker` is `Worker.Run` with `Worker.process` inlined, `Proc.poller` a poller's `Run`
  loop, and `Proc.batchCounts` the goroutine `process` starts for `UpdateBatchCounts`;
  `Proc.batchWrite` is that statement once its subqueries have read their snapshot.
* `Proc.returned` is a call that has returned, with its result.

`Sys.cancelled` is the state of `workerCtx`, `Sys.startedAt` the start of the running process,
and `Sys.sendLog` every call of the provider's `Send`: the notification and the time.
-/

namespace NotificationDispatch
set_option autoImplicit false

/-- The configuration the core reads (`config.Load`): the pool size
`SMS_WORKERS + EMAIL_WORKERS + PUSH_WORKERS`, `RetryBackoff`, and `RATE_LIMIT_PER_CHANNEL`, which
`ratelimiter.New` makes both the rate and the burst of each channel's limiter. -/
structure Config where
  workers : Nat
  retryBackoff : List Int
  rateLimit : Int

/-- `config.Load` with no variable set: five workers per channel, backoff 5 s, 30 s, 120 s, and
100 tokens a second per channel. -/
def Config.default : Config := ⟨5 + 5 + 5, [5, 30, 120], 100⟩

/-- The two pollers: `RetryWorker` and `SchedulerWorker`. -/
inductive PollKind
  | retry
  | scheduled
  deriving DecidableEq, Repr

/-- The `WHERE` clause of the poller's due query. -/
def PollKind.due : PollKind → Int → Notification → Bool
  | .retry => Store.dueRetry
  | .scheduled => Store.dueScheduled

/-- Whose enqueue loop a `Proc.enqueue` is. -/
inductive Owner
  | create (key : String)
  | createBatch (b : Batch)
  | poller (kind : PollKind)
  deriving DecidableEq, Repr

inductive CreatePhase
  | lookup
  | insert
  deriving DecidableEq, Repr

inductive CancelPhase
  | fetch
  | write (n : Notification)
  deriving DecidableEq, Repr

/-- Offering the row to the queue, or, the offer taken, writing `queued` for it. -/
inductive EnqueuePhase
  | offer
  | mark
  deriving DecidableEq, Repr

/-- `Worker.Run` / `Worker.process`, at each store call, queue operation and provider call. -/
inductive WorkerPhase
  | dequeue
  | select
  | fetch (it : Item)
  | claim (n : Notification)
  | limit (n : Notification)
  | send (n : Notification)
  | markSent (n : Notification) (msgId : String)
  | handleFailure (n : Notification) (err : String)
  | exited
  | panicked
  deriving DecidableEq, Repr

inductive PollerPhase
  | wait
  | exited
  deriving DecidableEq, Repr

instance instDecidableEqExcept {ε α : Type} [DecidableEq ε] [DecidableEq α] :
    DecidableEq (Except ε α)
  | .error a, .error b => decidable_of_iff (a = b) ⟨congrArg _, Except.error.inj⟩
  | .ok a, .ok b => decidable_of_iff (a = b) ⟨congrArg _, Except.ok.inj⟩
  | .error _, .ok _ => isFalse fun h => Except.noConfusion h
  | .ok _, .error _ => isFalse fun h => Except.noConfusion h

/-- What a returned call gave back. -/
inductive Outcome
  | created (key : String) (r : Except Error (Notification × Bool))
  | batchCreated (r : Except Error Batch)
  | cancelled (id : Nat) (r : Except Error Unit)
  | finished
  deriving DecidableEq, Repr

inductive Proc
  | create (req : CreateNotificationRequest) (key : String) (phase : CreatePhase)
  | createBatch (reqs : List CreateNotificationRequest)
  | cancel (id : Nat) (phase : CancelPhase)
  | enqueue (owner : Owner) (phase : EnqueuePhase) (n : Notification) (rest : List Notification)
  | worker (phase : WorkerPhase)
  | poller (kind : PollKind) (phase : PollerPhase)
  | batchCounts (batchId : Nat)
  | batchWrite (batchId : Nat) (counts : BatchCounts) (readAt : Int)
  | returned (o : Outcome)
  deriving DecidableEq, Repr

structure Sys where
  store : Store
  queue : PriorityQueue
  procs : List Proc
  now : Int
  cancelled : Bool
  startedAt : Int
  sendLog : List (Nat × Int)

/-- One atomic step of the environment or of one goroutine. `step i` runs goroutine `i`'s
next step with its store call (if any) succeeding, `fail i msg` makes that call fail; a
goroutine's blocking select is resolved by `receive` or `stop`, the provider answers a `Send`
by `reply`, and a poller's due query returns `found`. -/
inductive Action
  | tick (t : Int)
  | create (req : CreateNotificationRequest) (key : String)
  | createBatch (reqs : List CreateNotificationRequest)
  | cancel (id : Nat)
  | step (i : Nat)
  | fail (i : Nat) (msg : String)
  | receive (i : Nat) (t : Tier)
  | stop (i : Nat)
  | reply (i : Nat) (r : Except String String)
  | poll (i : Nat) (found : List Notification)
  | shutdown
  | restart
  deriving DecidableEq, Repr

namespace Sys

def setProc (s : Sys) (i : Nat) (p : Proc) : Sys := { s with procs := s.procs.set i p }

def spawn (s : Sys) (p : Proc) : Sys := { s with procs := s.procs ++ [p] }

def withStore (s : Sys) (st : Store) : Sys := { s with store := st }

def withQueue (s : Sys) (q : PriorityQueue) : Sys := { s with queue := q }

@[simp] theorem setProc_procs (s : Sys) (i : Nat) (p : Proc) : (s.setProc i p).procs = s.procs.set i p := rfl
@[simp] theorem setProc_store (s : Sys) (i : Nat) (p : Proc) : (s.setProc i p).store = s.store := rfl
@[simp] theorem setProc_queue (s : Sys) (i : Nat) (p : Proc) : (s.setProc i p).queue = s.queue := rfl
@[simp] theorem setProc_now (s : Sys) (i : Nat) (p : Proc) : (s.setProc i p).now = s.now := rfl
@[simp] theorem setProc_cancelled (s : Sys) (i : Nat) (p : Proc) :
    (s.setProc i p).cancelled = s.cancelled := rfl
@[simp] theorem setProc_startedAt (s : Sys) (i : Nat) (p : Proc) :
    (s.setProc i p).startedAt = s.startedAt := rfl
@[simp] theorem setProc_sendLog (s : Sys) (i : Nat) (p : Proc) :
    (s.setProc i p).sendLog = s.sendLog := rfl

@[simp] theorem spawn_procs (s : Sys) (p : Proc) : (s.spawn p).procs = s.procs ++ [p] := rfl
@[simp] theorem spawn_store (s : Sys) (p : Proc) : (s.spawn p).store = s.store := rfl
@[simp] theorem spawn_queue (s : Sys) (p : Proc) : (s.spawn p).queue = s.queue := rfl
@[simp] theorem spawn_now (s : Sys) (p : Proc) : (s.spawn p).now = s.now := rfl
@[simp] theorem spawn_cancelled (s : Sys) (p : Proc) : (s.spawn p).cancelled = s.cancelled := rfl
@[simp] theorem spawn_startedAt (s : Sys) (p : Proc) : (s.spawn p).startedAt = s.startedAt := rfl
@[simp] theorem spawn_sendLog (s : Sys) (p : Proc) : (s.spawn p).sendLog = s.sendLog := rfl

@[simp] theorem withStore_procs (s : Sys) (st : Store) : (s.withStore st).procs = s.procs := rfl
@[simp] theorem withStore_store (s : Sys) (st : Store) : (s.withStore st).store = st := rfl
@[simp] theorem withStore_queue (s : Sys) (st : Store) : (s.withStore st).queue = s.queue := rfl
@[simp] theorem withStore_now (s : Sys) (st : Store) : (s.withStore st).now = s.now := rfl
@[simp] theorem withStore_cancelled (s : Sys) (st : Store) :
    (s.withStore st).cancelled = s.cancelled := rfl
@[simp] theorem withStore_startedAt (s : Sys) (st : Store) :
    (s.withStore st).startedAt = s.startedAt := rfl
@[simp] theorem withStore_sendLog (s : Sys) (st : Store) : (s.withStore st).sendLog = s.sendLog := rfl

@[simp] theorem withQueue_procs (s : Sys) (q : PriorityQueue) : (s.withQueue q).procs = s.procs := rfl
@[simp] theorem withQueue_store (s : Sys) (q : PriorityQueue) : (s.withQueue q).store = s.store := rfl
@[simp] theorem withQueue_queue (s : Sys) (q : PriorityQueue) : (s.withQueue q).queue = q := rfl
@[simp] theorem withQueue_now (s : Sys) (q : PriorityQueue) : (s.withQueue q).now = s.now := rfl
@[simp] theorem withQueue_cancelled (s : Sys) (q : PriorityQueue) :
    (s.withQueue q).cancelled = s.cancelled := rfl
@[simp] theorem withQueue_startedAt (s : Sys) (q : PriorityQueue) :
    (s.withQueue q).startedAt = s.startedAt := rfl
@[simp] theorem withQueue_sendLog (s : Sys) (q : PriorityQueue) :
    (s.withQueue q).sendLog = s.sendLog := rfl

end Sys

end NotificationDispatch
