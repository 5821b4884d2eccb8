import NotificationDispatch.Service

/-! # The pollers (`internal/worker/retry_worker.go`, `scheduler_worker.go`)

`RetryWorker` and `SchedulerWorker` are one loop with two due queries. On a tick, `poll` runs
its query (under `workerCtx`, so only while that context is live) and walks the returned rows
with the enqueue loop of `Service.enqueueStep`: `Enqueue` each, skip it if the queue refuses,
and `UpdateStatus(queued)` after a successful `Enqueue`, logging a failure.
-/

namespace NotificationDispatch
set_option autoImplicit false

namespace Poller

/-- The loop over the rows the due query returned. -/
def enqueueAll (k : PollKind) : List Notification → Proc
  | [] => .poller k .wait
  | m :: rest => .enqueue (.poller k) .offer m rest

/-- A tick of the poller of kind `k` whose due query returns `found`: defined while
`workerCtx` is live and the query may return `found`. -/
def poll (k : PollKind) (s : Sys) (i : Nat) (found : List Notification) : Option Sys :=
  if !s.cancelled && decide (s.store.QueryResult (k.due s.now) found) then
    some (s.setProc i (enqueueAll k found))
  else none

/-- The due query fails: `poll` logs it and returns to the loop. -/
def fail (k : PollKind) (s : Sys) (i : Nat) : PollerPhase → Option Sys
  | .wait => some (s.setProc i (.poller k .wait))
  | .exited => none

/-- `Run`'s select takes `ctx.Done()`. -/
def stop (k : PollKind) (s : Sys) (i : Nat) : PollerPhase → Option Sys
  | .wait => if s.cancelled then some (s.setProc i (.poller k .exited)) else none
  | .exited => none

end Poller

/-- `RetryWorker.poll`. -/
def RetryWorker.poll : Sys → Nat → List Notification → Option Sys := Poller.poll .retry

/-- `SchedulerWorker.poll`. -/
def SchedulerWorker.poll : Sys → Nat → List Notification → Option Sys := Poller.poll .scheduled

end NotificationDispatch
