import NotificationDispatch.Process

/-! # `NotificationService` (`internal/service/notification_service.go`)

The service's three entry points, one atomic step at a time, and its `enqueue` helper.

* `Service.startCreate`: validation and the choice between the idempotency lookup and the
  insert. `Service.createStep` is the lookup (`GetByIdempotencyKey`) and the insert
  (`buildNotification`, then `repo.Create`).
* `Service.startCreateBatch`: the size checks and the validation of every item, in order.
  `Service.createBatchStep` is the transaction.
* `Service.cancelStep`: `GetByID` with `Cancel`'s `switch`, then `repo.Cancel`.
* `Service.enqueueStep`: one row of an enqueue loop. `Enqueue` first, and only when it succeeds
  `UpdateStatus(queued)`. That is `enqueue` for `Create` and for `CreateBatch`, and the body of
  both pollers' loops (`Poller.lean` starts those).

A step whose store call fails is `...Fail`: the error goes up, or is logged, and nothing else
changes.
-/

namespace NotificationDispatch
set_option autoImplicit false

/-- Where an enqueue loop goes once its last row is handled; `n` is `Create`'s own copy. -/
def Owner.finish : Owner → Notification → Proc
  | .create key, n => .returned (.created key (.ok (n, false)))
  | .createBatch b, _ => .returned (.batchCreated (.ok b))
  | .poller k, _ => .poller k .wait

/-- The loop's next row, or its end. -/
def Owner.next (o : Owner) (n : Notification) : List Notification → Proc
  | [] => o.finish n
  | m :: rest => .enqueue o .offer m rest

/-- Whether the loop's store calls run under `workerCtx` (the pollers') rather than a request's
context. -/
def Owner.workerCtx : Owner → Bool
  | .poller _ => true
  | _ => false

namespace Service

/-- `buildNotification`: a fresh row, `scheduled` iff the request has a `scheduled_at`. -/
def buildNotification (req : CreateNotificationRequest) (key : String) (batchId : Option Nat)
    (id : Nat) (now : Int) : Notification where
  id := id
  batchId := batchId
  channel := req.channel
  recipient := req.recipient
  content := req.content
  priority := req.priority
  status := if req.scheduledAt.isSome then .scheduled else .pending
  idempotencyKey := if key = "" then none else some key
  retryCount := 0
  maxRetries := 3
  nextRetryAt := none
  scheduledAt := req.scheduledAt
  sentAt := none
  providerMsgId := none
  errorMessage := none
  createdAt := now
  updatedAt := now

/-- `Create` up to its first store call. -/
def startCreate (req : CreateNotificationRequest) (key : String) : Proc :=
  match req.validate with
  | .error e => .returned (.created key (.error e))
  | .ok () => .create req key (if key = "" then .insert else .lookup)

/-- One store call of `Create`: the idempotency lookup, or the insert followed by `enqueue`
(which returns at once for a scheduled row). -/
def createStep (s : Sys) (i : Nat) (req : CreateNotificationRequest) (key : String) :
    CreatePhase → Sys
  | .lookup =>
    match s.store.getByIdempotencyKey key with
    | .ok existing => s.setProc i (.returned (.created key (.ok (existing, true))))
    | .error _ => s.setProc i (.create req key .insert)
  | .insert =>
    let n := buildNotification req key none s.store.nextId s.now
    match s.store.create n with
    | .error e => s.setProc i (.returned (.created key (.error (.wrap "persist notification" e))))
    | .ok st =>
      (s.withStore st).setProc i
        (if n.scheduledAt.isSome then (Owner.create key).finish n else .enqueue (.create key) .offer n [])

def createFail (s : Sys) (i : Nat) (key : String) (msg : String) : CreatePhase → Sys
  | .lookup => s.setProc i (.returned (.created key (.error (.wrap "idempotency lookup" (.store msg)))))
  | .insert => s.setProc i (.returned (.created key
      (.error (.wrap "persist notification" (.wrap "insert notification" (.store msg))))))

/-- The first request of a batch that fails `Validate`, with its index. -/
def firstInvalid : List CreateNotificationRequest → Nat → Option (Nat × Error)
  | [], _ => none
  | r :: rs, k =>
    match r.validate with
    | .error e => some (k, e)
    | .ok () => firstInvalid rs (k + 1)

/-- `CreateBatch` up to the transaction. -/
def startCreateBatch (reqs : List CreateNotificationRequest) : Proc :=
  if reqs.length = 0 then .returned (.batchCreated (.error (.domain .batchEmpty)))
  else if reqs.length > 1000 then .returned (.batchCreated (.error (.domain .batchTooLarge)))
  else
    match firstInvalid reqs 0 with
    | some (k, e) => .returned (.batchCreated (.error (.wrap ("item " ++ toString k) e)))
    | none => .createBatch reqs

/-- The batch row of `repo.CreateBatch`. -/
def newBatch (id total : Nat) (now : Int) : Batch :=
  ⟨id, total, total, 0, 0, 0, now, now⟩

/-- `CreateBatch`'s children: no idempotency key, the shared batch id, consecutive fresh ids. -/
def batchChildren (reqs : List CreateNotificationRequest) (b firstId : Nat) (now : Int) :
    List Notification :=
  reqs.mapIdx fun k r => buildNotification r "" (some b) (firstId + k) now

/-- The transaction of `CreateBatch`, then `enqueue` for each child that is not scheduled. -/
def createBatchStep (s : Sys) (i : Nat) (reqs : List CreateNotificationRequest) : Sys :=
  let b := newBatch s.store.nextBatchId reqs.length s.now
  let ns := batchChildren reqs b.id s.store.nextId s.now
  (s.withStore (s.store.createBatch b ns)).setProc i
    (match ns.filter (·.scheduledAt.isNone) with
     | [] => .returned (.batchCreated (.ok b))
     | m :: rest => .enqueue (.createBatch b) .offer m rest)

def createBatchFail (s : Sys) (i : Nat) (msg : String) : Sys :=
  s.setProc i (.returned (.batchCreated (.error (.wrap "persist batch" (.store msg)))))

/-- `Cancel`'s `switch n.Status`: the error it returns, or `none` to go on to `repo.Cancel`. -/
def cancelRefusal : Status → Option DomainError
  | .cancelled => some .alreadyCancelled
  | .processing => some .notCancellable
  | .sent => some .notCancellable
  | _ => none

/-- One store call of `Cancel`. -/
def cancelStep (s : Sys) (i : Nat) (id : Nat) : CancelPhase → Sys
  | .fetch =>
    s.setProc i
      (match s.store.getById id with
       | .error e => .returned (.cancelled id (.error e))
       | .ok n =>
         match cancelRefusal n.status with
         | some e => .returned (.cancelled id (.error (.domain e)))
         | none => .cancel id (.write n))
  | .write _ => (s.withStore (s.store.cancel id s.now)).setProc i (.returned (.cancelled id (.ok ())))

def cancelFail (s : Sys) (i : Nat) (id : Nat) (msg : String) : Sys :=
  s.setProc i (.returned (.cancelled id (.error (.store msg))))

/-- One row of an enqueue loop: `Enqueue`, then `UpdateStatus(queued)` and, for `Create`, the
copy's status. A poller's update needs a live `workerCtx`. -/
def enqueueStep (s : Sys) (i : Nat) (o : Owner) (n : Notification) (rest : List Notification) :
    EnqueuePhase → Option Sys
  | .offer =>
    some (match s.queue.enqueue n.item with
      | .ok q => (s.withQueue q).setProc i (.enqueue o .mark n rest)
      | .error _ => s.setProc i (o.next n rest))
  | .mark =>
    if o.workerCtx && s.cancelled then none
    else some ((s.withStore (s.store.updateStatus n.id .queued s.now)).setProc i
      (o.next { n with status := .queued } rest))

/-- `UpdateStatus(queued)` failed: logged, and the loop goes on. -/
def enqueueFail (s : Sys) (i : Nat) (o : Owner) (n : Notification) (rest : List Notification) :
    EnqueuePhase → Option Sys
  | .offer => none
  | .mark => some (s.setProc i (o.next n rest))

end Service

end NotificationDispatch
