import NotificationDispatch.Process

/-! # The worker (`internal/worker/worker.go`) and the per-channel limiters

`Worker.Run` with `Worker.process` inlined, one atomic step per store call, queue operation
and provider call:

`dequeue` (step 1 of `Dequeue`) → `select` (step 2) → `fetch` (`GetByID`, skip a `cancelled`
row) → `claim` (`UpdateStatus(processing)`) → `limit` (`ChannelLimiters.Wait`) → `send` (the
provider) → `markSent` or `handleFailure` → `dequeue`.

A store call under a cancelled `workerCtx` fails, so `Worker.step` is disabled there and only
`Worker.fail` can run it. `Worker.reply` records every `Send` in `Sys.sendLog`.
`ChannelLimiters.wait` dereferences a nil limiter for a channel `ratelimiter.New` did not
configure; `Worker.handleFailure` indexes `backoff[-1]` when the backoff list is empty. Both are
panics, and the worker goes to `panicked`. With a rate below 1 the limiter's burst is below 1
too, and `rate.Limiter.Wait` refuses every call before it looks at the context.
-/

namespace NotificationDispatch
set_option autoImplicit false

/-- The keys of `ratelimiter.New`'s map. -/
def ChannelLimiters.has (ch : Channel) : Bool :=
  ch = channelSMS || ch = channelEmail || ch = channelPush

/-- `ChannelLimiters.Wait` on limiters of rate and burst `rate`: `none` is the dereference of a
missing limiter. `rate.Limiter.Wait` first refuses a call when its one token is more than the
burst, then ends with the context's error or, after the bucket's delay (not modelled), with a
token. -/
def ChannelLimiters.wait (rate : Int) (cancelled : Bool) (ch : Channel) :
    Option (Except String Unit) :=
  if ChannelLimiters.has ch then
    some (if rate < 1 then .error ("rate: Wait(n=1) exceeds limiter\x27s burst " ++ toString rate)
      else if cancelled then .error "context canceled" else .ok ())
  else none

namespace Worker

/-- The delay `handleFailure` reads: `backoff[idx]` with `idx` clamped to the last entry; `none`
is the out-of-range `backoff[-1]` of an empty list. -/
def backoffFor (backoff : List Int) (retryCount : Nat) : Option Int :=
  backoff[if retryCount ≥ backoff.length then backoff.length - 1 else retryCount]?

/-- `Worker.handleFailure`'s store call: `MarkFailed` once `RetryCount >= MaxRetries`, else
`ScheduleRetry(RetryCount+1, now + backoff)`. -/
def handleFailure (backoff : List Int) (st : Store) (n : Notification) (err : String) (now : Int) :
    Option Store :=
  if n.retryCount ≥ n.maxRetries then some (st.markFailed n.id err now)
  else (backoffFor backoff n.retryCount).map fun d =>
    st.scheduleRetry n.id (n.retryCount + 1) (now + d) err now

theorem handleFailure_some {backoff : List Int} {st st' : Store} {n : Notification} {err : String}
    {now : Int} (h : handleFailure backoff st n err now = some st') :
    (n.maxRetries ≤ n.retryCount ∧ st' = st.markFailed n.id err now) ∨
      (n.retryCount < n.maxRetries ∧ ∃ d, backoffFor backoff n.retryCount = some d ∧
        st' = st.scheduleRetry n.id (n.retryCount + 1) (now + d) err now) := by
  unfold handleFailure at h
  split at h
  · cases h; exact .inl ⟨‹_›, rfl⟩
  · obtain ⟨d, hd, rfl⟩ := Option.map_eq_some'.mp h
    exact .inr ⟨by omega, d, hd, rfl⟩

/-- One step of worker `i` whose store call, if any, succeeds. -/
def step (cfg : Config) (s : Sys) (i : Nat) : WorkerPhase → Option Sys
  | .dequeue =>
    some (match s.queue.dequeueHigh with
      | some (it, q) => (s.withQueue q).setProc i (.worker (.fetch it))
      | none => s.setProc i (.worker .select))
  | .fetch it =>
    if s.cancelled then none
    else some (s.setProc i
      (match s.store.getById it.notificationId with
       | .ok n => if n.status = .cancelled then .worker .dequeue else .worker (.claim n)
       | .error _ => .worker .dequeue))
  | .claim n =>
    if s.cancelled then none
    else some ((s.withStore (s.store.updateStatus n.id .processing s.now)).setProc i (.worker (.limit n)))
  | .limit n =>
    some (s.setProc i
      (match ChannelLimiters.wait cfg.rateLimit s.cancelled n.channel with
       | none => .worker .panicked
       | some (.error _) => .worker .dequeue
       | some (.ok ()) => .worker (.send n)))
  | .markSent n msgId =>
    if s.cancelled then none
    else
      let s' := (s.withStore (s.store.markSent n.id msgId s.now s.now)).setProc i (.worker .dequeue)
      some (match n.batchId with
        | some b => s'.spawn (.batchCounts b)
        | none => s')
  | .handleFailure n err =>
    if s.cancelled then none
    else some (match handleFailure cfg.retryBackoff s.store n err s.now with
      | some st => (s.withStore st).setProc i (.worker .dequeue)
      | none => s.setProc i (.worker .panicked))
  | _ => none

/-- The store call of worker `i` fails: `process` logs it and returns to `Run`'s loop. -/
def fail (cfg : Config) (s : Sys) (i : Nat) : WorkerPhase → Option Sys
  | .fetch _ => some (s.setProc i (.worker .dequeue))
  | .claim _ => some (s.setProc i (.worker .dequeue))
  | .markSent _ _ => some (s.setProc i (.worker .dequeue))
  | .handleFailure n err =>
    if (handleFailure cfg.retryBackoff s.store n err s.now).isSome
    then some (s.setProc i (.worker .dequeue)) else none
  | _ => none

/-- Step 2 of `Dequeue` receives from tier `t`. -/
def receive (s : Sys) (i : Nat) (t : Tier) : WorkerPhase → Option Sys
  | .select => (s.queue.receive t).map fun r => (s.withQueue r.2).setProc i (.worker (.fetch r.1))
  | _ => none

/-- Step 2 of `Dequeue` takes `ctx.Done()`: `Run` returns. -/
def stop (s : Sys) (i : Nat) : WorkerPhase → Option Sys
  | .select => if s.cancelled then some (s.setProc i (.worker .exited)) else none
  | _ => none

/-- The provider answers `Send`; under a cancelled `workerCtx` the request fails. -/
def reply (s : Sys) (i : Nat) (r : Except String String) : WorkerPhase → Option Sys
  | .send n =>
    let s' := { s with sendLog := s.sendLog ++ [(n.id, s.now)] }
    match r with
    | .ok msgId => if s.cancelled then none else some (s'.setProc i (.worker (.markSent n msgId)))
    | .error e => some (s'.setProc i (.worker (.handleFailure n e)))
  | _ => none

/-- The goroutine `process` starts after a send of a batch child runs `UpdateBatchCounts` under
`context.Background()`. Under `READ COMMITTED` the statement's subqueries read the snapshot it
starts with, at `now`, which is also its `NOW()`. -/
def batchCountsRead (s : Sys) (i b : Nat) : Sys :=
  s.setProc i (.batchWrite b (s.store.recount b) s.now)

/-- The statement's write of the batch row, with the counts it read; it may have waited for a
concurrent write of the row to commit. -/
def batchCountsWrite (s : Sys) (i b : Nat) (c : BatchCounts) (readAt : Int) : Sys :=
  (s.withStore (s.store.writeBatchCounts b c readAt)).setProc i (.returned .finished)

end Worker

end NotificationDispatch
