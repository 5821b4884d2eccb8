import NotificationDispatch.Domain

/-! # The repository (`pgNotificationRepository`, `internal/repository`)

The PostgreSQL store as a value. `Store.rows` maps an id to its row, `Store.nextId` is the next
fresh id (the stand-in for `uuid.New()`), and batches likewise. Every statement of the
repository is one atomic function here:

* `Store.create` is the `INSERT`; the `idempotency_key UNIQUE` constraint rejects a taken key,
  which the Go code maps to `ErrConflict`.
* `Store.update` is `UPDATE notifications SET ... WHERE id = $id` together with the
  `set_updated_at` trigger; `updateStatus`, `markSent`, `markFailed`, `scheduleRetry` and
  `cancel` are its instances, each with its own `SET` list.
* `Store.dueRows` is the `WHERE` of `FindDueRetries` / `FindDueScheduled`; `QueryResult` says
  which lists the query may return (`LIMIT 500` without `ORDER BY`).
* `Store.createBatch` is the transaction of `CreateBatch`. `UpdateBatchCounts` is one statement
  in two parts: its subqueries count the children in the snapshot the statement starts with
  (`Store.recount`), and its write of the batch row (`Store.writeBatchCounts`) can come later,
  once a concurrent write of that row has committed.

A statement that fails (a driver error, a cancelled context) changes nothing. Failures are not
functions of the store; the dispatcher's `fail` action chooses them.
-/

namespace NotificationDispatch
set_option autoImplicit false

structure Store where
  rows : Nat → Option Notification
  nextId : Nat
  batches : Nat → Option Batch
  nextBatchId : Nat

namespace Store

def empty : Store := ⟨fun _ => none, 0, fun _ => none, 0⟩

/-- Every row, in id order. -/
def allRows (st : Store) : List Notification := (List.range st.nextId).filterMap st.rows

/-- Whether the unique index on `idempotency_key` already holds `k`. -/
def keyTaken (st : Store) (k : String) : Bool := st.allRows.any (·.idempotencyKey = some k)

/-- One `INSERT INTO notifications`; `n.id` is the fresh id `st.nextId`. -/
def insert (st : Store) (n : Notification) : Store :=
  { st with rows := Function.update st.rows n.id (some n), nextId := st.nextId + 1 }

/-- `Create`. -/
def create (st : Store) (n : Notification) : Except Error Store :=
  match n.idempotencyKey with
  | some k => if st.keyTaken k then .error (.domain .conflict) else .ok (st.insert n)
  | none => .ok (st.insert n)

/-- `GetByID`. -/
def getById (st : Store) (id : Nat) : Except Error Notification :=
  match st.rows id with
  | some n => .ok n
  | none => .error (.domain .notFound)

/-- `GetByIdempotencyKey`. -/
def getByIdempotencyKey (st : Store) (key : String) : Except Error Notification :=
  match st.allRows.find? (·.idempotencyKey = some key) with
  | some n => .ok n
  | none => .error (.domain .notFound)

/-- `UPDATE notifications SET <f> WHERE id = $id`; the trigger sets `updated_at`. -/
def update (st : Store) (id : Nat) (f : Notification → Notification) (now : Int) : Store :=
  { st with rows := fun j => if j = id then (st.rows id).map fun n => { f n with updatedAt := now }
                             else st.rows j }

/-- `UpdateStatus`: the blind transition. -/
def updateStatus (st : Store) (id : Nat) (status : Status) (now : Int) : Store :=
  st.update id (fun n => { n with status := status }) now

/-- `MarkSent`. -/
def markSent (st : Store) (id : Nat) (providerMsgId : String) (sentAt now : Int) : Store :=
  st.update id (fun n => { n with status := .sent, providerMsgId := some providerMsgId,
                                  sentAt := some sentAt, errorMessage := none }) now

/-- `MarkFailed`: permanent failure, `next_retry_at = NULL`. -/
def markFailed (st : Store) (id : Nat) (errMsg : String) (now : Int) : Store :=
  st.update id (fun n => { n with status := .failed, errorMessage := some errMsg,
                                  nextRetryAt := none }) now

/-- `ScheduleRetry`. -/
def scheduleRetry (st : Store) (id retryCount : Nat) (nextRetry : Int) (errMsg : String)
    (now : Int) : Store :=
  st.update id (fun n => { n with status := .failed, retryCount := retryCount,
                                  nextRetryAt := some nextRetry, errorMessage := some errMsg }) now

/-- `Cancel`: sets `cancelled` unconditionally. -/
def cancel (st : Store) (id : Nat) (now : Int) : Store :=
  st.update id (fun n => { n with status := .cancelled }) now

/-! ## Due queries -/

/-- The `WHERE` of `FindDueRetries` (a `NULL` `next_retry_at` compares as unknown). -/
def dueRetry (now : Int) (n : Notification) : Bool :=
  n.status = .failed && n.retryCount < n.maxRetries &&
    match n.nextRetryAt with
    | some t => t ≤ now
    | none => false

/-- The `WHERE` of `FindDueScheduled`. -/
def dueScheduled (now : Int) (n : Notification) : Bool :=
  n.status = .scheduled &&
    match n.scheduledAt with
    | some t => t ≤ now
    | none => false

def dueRows (st : Store) (p : Notification → Bool) : List Notification := st.allRows.filter p

/-- What a due query may return: `LIMIT 500` of the matching rows, in any order. -/
def QueryResult (st : Store) (p : Notification → Bool) (found : List Notification) : Prop :=
  found ⊆ st.dueRows p ∧ found.Nodup ∧ found.length = min 500 (st.dueRows p).length

instance (st : Store) (p : Notification → Bool) (found : List Notification) :
    Decidable (st.QueryResult p found) := by
  unfold QueryResult; infer_instance

/-! ## Batches -/

/-- The transaction of `CreateBatch`: the batch row, then every child. -/
def createBatch (st : Store) (b : Batch) (ns : List Notification) : Store :=
  ns.foldl insert { st with batches := Function.update st.batches b.id (some b),
                            nextBatchId := st.nextBatchId + 1 }

/-- The rows whose `batch_id` is `b`. -/
def children (st : Store) (b : Nat) : List Notification := st.allRows.filter (·.batchId = some b)

/-- `COUNT(*)` of `b`'s children whose status is one of `ss`. -/
def countIn (st : Store) (b : Nat) (ss : List Status) : Nat :=
  (st.children b).countP (·.status ∈ ss)

/-- What the four subqueries of `UpdateBatchCounts` read in the snapshot `st`: the children of
`b` that are `pending`, `queued`, `processing` or `scheduled`, those `sent`, those `failed` (with
retries left or not) and those `cancelled`. -/
def recount (st : Store) (b : Nat) : BatchCounts :=
  ⟨st.countIn b [.pending, .queued, .processing, .scheduled], st.countIn b [.sent],
    st.countIn b [.failed], st.countIn b [.cancelled]⟩

/-- The write of `UpdateBatchCounts`: the counts its subqueries read, into batch `b`'s row; the
trigger sets `updated_at` to the statement's `NOW()`. -/
def writeBatchCounts (st : Store) (b : Nat) (c : BatchCounts) (now : Int) : Store :=
  { st with batches := fun j => if j = b then (st.batches b).map fun bt =>
      { bt with pending := c.pending, sent := c.sent, failed := c.failed, cancelled := c.cancelled,
                updatedAt := now }
    else st.batches j }

/-! ## Row lemmas -/

@[simp] theorem update_rows_self (st : Store) (id : Nat) (f : Notification → Notification)
    (now : Int) : (st.update id f now).rows id = (st.rows id).map fun n => { f n with updatedAt := now } := by
  simp [update]

theorem update_rows_of_ne (st : Store) {id j : Nat} (f : Notification → Notification) (now : Int)
    (h : j ≠ id) : (st.update id f now).rows j = st.rows j := by
  simp [update, h]

@[simp] theorem update_nextId (st : Store) (id : Nat) (f : Notification → Notification) (now : Int) :
    (st.update id f now).nextId = st.nextId := rfl

@[simp] theorem update_batches (st : Store) (id : Nat) (f : Notification → Notification) (now : Int) :
    (st.update id f now).batches = st.batches := rfl

@[simp] theorem update_nextBatchId (st : Store) (id : Nat) (f : Notification → Notification)
    (now : Int) : (st.update id f now).nextBatchId = st.nextBatchId := rfl

theorem update_rows (st : Store) (id : Nat) (f : Notification → Notification) (now : Int) (j : Nat) :
    (st.update id f now).rows j =
      if j = id then (st.rows j).map fun n => { f n with updatedAt := now } else st.rows j := by
  split
  · subst j; simp
  · exact update_rows_of_ne st f now ‹_›

@[simp] theorem insert_rows (st : Store) (n : Notification) (j : Nat) :
    (st.insert n).rows j = if j = n.id then some n else st.rows j := by
  simp [insert, Function.update_apply]

@[simp] theorem insert_nextId (st : Store) (n : Notification) : (st.insert n).nextId = st.nextId + 1 := rfl

@[simp] theorem insert_batches (st : Store) (n : Notification) : (st.insert n).batches = st.batches := rfl

@[simp] theorem insert_nextBatchId (st : Store) (n : Notification) :
    (st.insert n).nextBatchId = st.nextBatchId := rfl

@[simp] theorem writeBatchCounts_rows (st : Store) (b : Nat) (c : BatchCounts) (now : Int) :
    (st.writeBatchCounts b c now).rows = st.rows := rfl

@[simp] theorem writeBatchCounts_nextId (st : Store) (b : Nat) (c : BatchCounts) (now : Int) :
    (st.writeBatchCounts b c now).nextId = st.nextId := rfl

@[simp] theorem writeBatchCounts_nextBatchId (st : Store) (b : Nat) (c : BatchCounts) (now : Int) :
    (st.writeBatchCounts b c now).nextBatchId = st.nextBatchId := rfl

theorem create_ok {st st' : Store} {n : Notification} (h : st.create n = .ok st') :
    st' = st.insert n ∧ ∀ k, n.idempotencyKey = some k → st.keyTaken k = false := by
  unfold create at h
  split at h
  · split at h
    · cases h
    · cases h; rename_i k hk _; exact ⟨rfl, fun k' hk' => by simp_all⟩
  · cases h; rename_i hk; exact ⟨rfl, fun k hk' => by simp_all⟩

theorem create_error {st : Store} {n : Notification} {e : Error} (h : st.create n = .error e) :
    e = .domain .conflict := by
  unfold create at h
  split at h
  · split at h
    · cases h; rfl
    · cases h
  · cases h

theorem update_rows_some {st : Store} {id j : Nat} {f : Notification → Notification} {now : Int}
    {m : Notification} (h : (st.update id f now).rows j = some m) :
    ∃ n, st.rows j = some n ∧ (j = id ∧ m = { f n with updatedAt := now } ∨ m = n) := by
  rw [update_rows] at h
  split at h
  · subst j
    obtain ⟨n, hn, rfl⟩ := Option.map_eq_some'.mp h
    exact ⟨n, hn, .inl ⟨rfl, rfl⟩⟩
  · exact ⟨m, h, .inr rfl⟩

theorem insert_rows_some {st : Store} {n m : Notification} {j : Nat}
    (h : (st.insert n).rows j = some m) : (j = n.id ∧ m = n) ∨ st.rows j = some m := by
  rw [insert_rows] at h
  split at h
  · cases h; exact .inl ⟨‹_›, rfl⟩
  · exact .inr h

theorem foldl_insert_nextId (ns : List Notification) (st : Store) :
    (ns.foldl insert st).nextId = st.nextId + ns.length := by
  induction ns generalizing st with
  | nil => rfl
  | cons n ns ih => simp only [List.foldl_cons, List.length_cons, ih, insert_nextId]; omega

@[simp] theorem createBatch_nextId (st : Store) (b : Batch) (ns : List Notification) :
    (st.createBatch b ns).nextId = st.nextId + ns.length :=
  foldl_insert_nextId ns _

theorem foldl_insert_batches (ns : List Notification) (st : Store) :
    (ns.foldl insert st).batches = st.batches := by
  induction ns generalizing st with
  | nil => rfl
  | cons n ns ih => exact ih _

theorem foldl_insert_nextBatchId (ns : List Notification) (st : Store) :
    (ns.foldl insert st).nextBatchId = st.nextBatchId := by
  induction ns generalizing st with
  | nil => rfl
  | cons n ns ih => exact ih _

@[simp] theorem createBatch_batches (st : Store) (b : Batch) (ns : List Notification) :
    (st.createBatch b ns).batches = Function.update st.batches b.id (some b) :=
  foldl_insert_batches ns _

@[simp] theorem createBatch_nextBatchId (st : Store) (b : Batch) (ns : List Notification) :
    (st.createBatch b ns).nextBatchId = st.nextBatchId + 1 :=
  foldl_insert_nextBatchId ns _

theorem foldl_insert_rows_some {ns : List Notification} {st : Store} {j : Nat} {m : Notification}
    (h : (ns.foldl insert st).rows j = some m) : m ∈ ns ∨ st.rows j = some m := by
  induction ns generalizing st with
  | nil => exact .inr h
  | cons n ns ih =>
    rcases ih h with hm | hm
    · exact .inl (List.mem_cons_of_mem _ hm)
    · rcases insert_rows_some hm with ⟨-, rfl⟩ | hm
      · exact .inl (List.mem_cons_self _ _)
      · exact .inr hm

theorem createBatch_rows_some {st : Store} {b : Batch} {ns : List Notification} {j : Nat}
    {m : Notification} (h : (st.createBatch b ns).rows j = some m) : m ∈ ns ∨ st.rows j = some m := by
  unfold createBatch at h
  rcases foldl_insert_rows_some h with hm | hm
  exacts [.inl hm, .inr hm]

theorem getById_ok {st : Store} {id : Nat} {n : Notification} (h : st.getById id = .ok n) :
    st.rows id = some n := by
  unfold getById at h
  split at h
  · cases h; assumption
  · cases h

theorem getById_error {st : Store} {id : Nat} {e : Error} (h : st.getById id = .error e) :
    st.rows id = none := by
  unfold getById at h
  split at h
  · cases h
  · assumption

theorem mem_allRows {st : Store} {m : Notification} :
    m ∈ st.allRows ↔ ∃ j < st.nextId, st.rows j = some m := by
  simp [allRows]

theorem getByIdempotencyKey_ok {st : Store} {key : String} {n : Notification}
    (h : st.getByIdempotencyKey key = .ok n) : n ∈ st.allRows ∧ n.idempotencyKey = some key := by
  unfold getByIdempotencyKey at h
  split at h
  · rename_i m hm
    cases h
    exact ⟨List.mem_of_find?_eq_some hm, by simpa using List.find?_some hm⟩
  · cases h

theorem QueryResult.mem {st : Store} {p : Notification → Bool} {found : List Notification}
    (h : st.QueryResult p found) {m : Notification} (hm : m ∈ found) : m ∈ st.allRows ∧ p m := by
  have := h.1 hm
  simp only [dueRows, List.mem_filter] at this
  exact this

end Store

end NotificationDispatch
