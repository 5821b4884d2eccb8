import Mathlib.Data.List.AList
import NotificationDispatch.Idempotency
import NotificationDispatch.Listing

/-! # The in-memory repository (`MockNotificationRepository`)

The repository the service's tests run against: two Go maps behind a mutex, and three error
overrides a test may set. A Go map is an `AList` here: `m[k] = v` is `AList.insert`, a write
through the pointer a map holds is an insert of the changed row under the same key, and a
`range` loop visits the entries in an order Go picks afresh each time, which each read that
ranges takes as an argument (`order`, a permutation of the map's rows).

`NotificationRepository.Call` is one of the interface's `Create`, `GetByID`,
`GetByIdempotencyKey`, `UpdateStatus`, `ScheduleRetry`, `Cancel` and `CreateBatch`, with the
statement's time; `PgRepository.call` is what the PostgreSQL repository (`Store`) does with it
and `MockRepo.call` what the mock does. The mock's `List` (every row, whatever the filter),
`GetBatch`, `FindDueRetries` and `FindDueScheduled` (nothing) and `UpdateBatchCounts` (a no-op)
answer otherwise than PostgreSQL and are left out; `MarkSent` and `MarkFailed` are the last
theorem's. `MockRepo.Mirrors` relates the two states: no override set, and the same batches and
rows up to the values of their timestamps. PostgreSQL keeps a timestamp to the microsecond and
its trigger sets `updated_at` on every `UPDATE`; the mock keeps Go's nanoseconds and never
touches `updated_at`. Whether a timestamp is set is compared.

* `mock_mirrors_pg`: from mirroring states, every run of such calls, as the service issues them
  (a `Create` at the next fresh id, a batch's children at consecutive fresh ids with no key), gets
  the same answers from both, up to the values of timestamps, whatever orders the mock's loops
  visit the map in, and ends in mirroring states.
* `markSent_markFailed_mirror_iff`: the two calls the mirror leaves out break it exactly when a
  row carries what PostgreSQL clears and the mock keeps: `MarkSent` the row's `error_message`,
  `MarkFailed` its `next_retry_at`.
-/

namespace NotificationDispatch
set_option autoImplicit false

/-- `MockNotificationRepository`. -/
structure MockRepo where
  notifications : AList fun _ : Nat => Notification
  batches : AList fun _ : Nat => Batch
  createErr : Option Error
  getByIdErr : Option Error
  getByIdempotencyKeyErr : Option Error

namespace MockRepo

/-- `NewMockNotificationRepository`: empty maps, no override. -/
def new : MockRepo := ⟨∅, ∅, none, none, none⟩

/-- The rows of the map, in the order its entries are kept. -/
def rows (m : MockRepo) : List Notification := m.notifications.entries.map (·.2)

/-- `Create`: the override; for a keyed row, the loop over every row for the key; then the clone
stored under its id. -/
def create (m : MockRepo) (n : Notification) : Except Error MockRepo :=
  match m.createErr with
  | some e => .error e
  | none =>
    match n.idempotencyKey with
    | some k =>
      if m.rows.any (·.idempotencyKey = some k) then .error (.domain .conflict)
      else .ok { m with notifications := m.notifications.insert n.id n }
    | none => .ok { m with notifications := m.notifications.insert n.id n }

/-- `GetByID`. -/
def getById (m : MockRepo) (id : Nat) : Except Error Notification :=
  match m.getByIdErr with
  | some e => .error e
  | none =>
    match m.notifications.lookup id with
    | some n => .ok n
    | none => .error (.domain .notFound)

/-- `GetByIdempotencyKey`, its loop visiting the rows in `order`. -/
def getByIdempotencyKey (m : MockRepo) (order : List Notification) (key : String) :
    Except Error Notification :=
  match m.getByIdempotencyKeyErr with
  | some e => .error e
  | none =>
    match order.find? (·.idempotencyKey = some key) with
    | some n => .ok n
    | none => .error (.domain .notFound)

/-- `List`: every row, in `order`, whatever the filter asks. -/
def list (order : List Notification) (_ : ListFilter) : List Notification × Nat :=
  (order, order.length)

/-- A write through the row's pointer, `if n, ok := m.notifications[id]; ok { ... }`. -/
def modify (m : MockRepo) (id : Nat) (f : Notification → Notification) : MockRepo :=
  match m.notifications.lookup id with
  | some n => { m with notifications := m.notifications.insert id (f n) }
  | none => m

/-- `UpdateStatus`. -/
def updateStatus (m : MockRepo) (id : Nat) (status : Status) : MockRepo :=
  m.modify id fun n => { n with status := status }

/-- `MarkSent`: the error message stays. -/
def markSent (m : MockRepo) (id : Nat) (providerMsgId : String) (sentAt : Int) : MockRepo :=
  m.modify id fun n => { n with status := .sent, providerMsgId := some providerMsgId,
                                sentAt := some sentAt }

/-- `MarkFailed`: the next retry time stays. -/
def markFailed (m : MockRepo) (id : Nat) (errMsg : String) : MockRepo :=
  m.modify id fun n => { n with status := .failed, errorMessage := some errMsg }

/-- `ScheduleRetry`. -/
def scheduleRetry (m : MockRepo) (id retryCount : Nat) (nextRetry : Int) (errMsg : String) :
    MockRepo :=
  m.modify id fun n => { n with retryCount := retryCount, nextRetryAt := some nextRetry,
                                errorMessage := some errMsg, status := .failed }

/-- `Cancel`. -/
def cancel (m : MockRepo) (id : Nat) : MockRepo :=
  m.modify id fun n => { n with status := .cancelled }

/-- `FindDueRetries` and `FindDueScheduled`: nothing, ever. -/
def findDue (_ : MockRepo) : List Notification := []

/-- `CreateBatch`: the batch row from the children's count and the mock's clock `now`, then every
child stored under its id. -/
def createBatch (m : MockRepo) (batchId : Nat) (ns : List Notification) (now : Int) :
    Batch × MockRepo :=
  let batch : Batch := ⟨batchId, ns.length, ns.length, 0, 0, 0, now, now⟩
  (batch, { m with batches := m.batches.insert batchId batch,
                   notifications := ns.foldl (fun acc n => acc.insert n.id n) m.notifications })

/-- `UpdateBatchCounts`: nothing. -/
def updateBatchCounts (m : MockRepo) (_ : Nat) : MockRepo := m

end MockRepo

/-! ## Calls through the interface -/

/-- A call `NotificationService` makes through `NotificationRepository` on its request paths,
with the statement's time. -/
inductive NotificationRepository.Call
  | create (n : Notification)
  | getById (id : Nat)
  | getByIdempotencyKey (key : String)
  | updateStatus (id : Nat) (status : Status) (now : Int)
  | scheduleRetry (id retryCount : Nat) (nextRetry : Int) (errMsg : String) (now : Int)
  | cancel (id : Nat) (now : Int)
  | createBatch (batchId : Nat) (ns : List Notification) (now : Int)

/-- What a call returns. -/
inductive NotificationRepository.Answer
  | done (r : Except Error Unit)
  | row (r : Except Error Notification)
  | batch (b : Batch)
  deriving DecidableEq

open NotificationRepository

/-- A row whose timestamps only say whether they are set. -/
def Notification.unstamped (n : Notification) : Notification :=
  { n with nextRetryAt := n.nextRetryAt.map fun _ => 0, scheduledAt := n.scheduledAt.map fun _ => 0,
           sentAt := n.sentAt.map fun _ => 0, createdAt := 0, updatedAt := 0 }

/-- A batch without its timestamps. -/
def Batch.unstamped (b : Batch) : Batch := { b with createdAt := 0, updatedAt := 0 }

/-- An answer without the timestamps of the row or batch it carries. -/
def NotificationRepository.Answer.unstamped : Answer → Answer
  | .row r => .row (r.map Notification.unstamped)
  | .batch b => .batch b.unstamped
  | a => a

/-- The calls as the service issues them: `Create` at the next fresh id; a batch's children at
consecutive fresh ids, with no key. -/
def NotificationRepository.Call.Issued (st : Store) : Call → Prop
  | .create n => n.id = st.nextId
  | .createBatch _ ns _ =>
    (∀ k (hk : k < ns.length), ns[k].id = st.nextId + k) ∧ ∀ n ∈ ns, n.idempotencyKey = none
  | _ => True

/-- The PostgreSQL repository's answer to a call, and its store after it. -/
def PgRepository.call (st : Store) : Call → Answer × Store
  | .create n =>
    match st.create n with
    | .ok st' => (.done (.ok ()), st')
    | .error e => (.done (.error e), st)
  | .getById id => (.row (st.getById id), st)
  | .getByIdempotencyKey key => (.row (st.getByIdempotencyKey key), st)
  | .updateStatus id status now => (.done (.ok ()), st.updateStatus id status now)
  | .scheduleRetry id retryCount nextRetry errMsg now =>
    (.done (.ok ()), st.scheduleRetry id retryCount nextRetry errMsg now)
  | .cancel id now => (.done (.ok ()), st.cancel id now)
  | .createBatch batchId ns now =>
    let b := Service.newBatch batchId ns.length now
    (.batch b, st.createBatch b ns)

/-- The mock's answer to a call, its loops visiting the map in `order`, and its maps after it. -/
def MockRepo.call (order : MockRepo → List Notification) (m : MockRepo) : Call → Answer × MockRepo
  | .create n =>
    match m.create n with
    | .ok m' => (.done (.ok ()), m')
    | .error e => (.done (.error e), m)
  | .getById id => (.row (m.getById id), m)
  | .getByIdempotencyKey key => (.row (m.getByIdempotencyKey (order m) key), m)
  | .updateStatus id status _ => (.done (.ok ()), m.updateStatus id status)
  | .scheduleRetry id retryCount nextRetry errMsg _ =>
    (.done (.ok ()), m.scheduleRetry id retryCount nextRetry errMsg)
  | .cancel id _ => (.done (.ok ()), m.cancel id)
  | .createBatch batchId ns now =>
    let r := m.createBatch batchId ns now
    (.batch r.1, r.2)

/-- A run of calls against the PostgreSQL repository. -/
def PgRepository.run (st : Store) : List Call → List Answer × Store
  | [] => ([], st)
  | c :: cs =>
    let r := PgRepository.run (PgRepository.call st c).2 cs
    ((PgRepository.call st c).1 :: r.1, r.2)

/-- A run of calls against the mock. -/
def MockRepo.run (order : MockRepo → List Notification) (m : MockRepo) :
    List Call → List Answer × MockRepo
  | [] => ([], m)
  | c :: cs =>
    let r := MockRepo.run order (MockRepo.call order m c).2 cs
    ((MockRepo.call order m c).1 :: r.1, r.2)

/-- Every call of a run issued as the service issues it, in the store it meets. -/
def PgRepository.Issued (st : Store) : List Call → Prop
  | [] => True
  | c :: cs => c.Issued st ∧ PgRepository.Issued (PgRepository.call st c).2 cs

/-! ## The mirror -/

/-- The mock stands for the store: no override set, a valid store with a unique index on the key,
and the same rows and batches up to the values of their timestamps. -/
structure MockRepo.Mirrors (m : MockRepo) (st : Store) : Prop where
  quiet : m.createErr = none ∧ m.getByIdErr = none ∧ m.getByIdempotencyKeyErr = none
  valid : st.Valid
  unique : ∀ k, st.KeyUnique k
  rows : ∀ id, (m.notifications.lookup id).map Notification.unstamped =
    (st.rows id).map Notification.unstamped
  batches : ∀ b, (m.batches.lookup b).map Batch.unstamped = (st.batches b).map Batch.unstamped

namespace MockRepo

theorem mem_rows {m : MockRepo} {n : Notification} :
    n ∈ m.rows ↔ ∃ id, m.notifications.lookup id = some n := by
  simp only [rows, List.mem_map]
  constructor
  · rintro ⟨⟨id, n⟩, he, rfl⟩
    exact ⟨id, AList.mem_lookup_iff.mpr he⟩
  · rintro ⟨id, hn⟩
    exact ⟨⟨id, n⟩, AList.mem_lookup_iff.mp hn, rfl⟩

theorem lookup_modify (m : MockRepo) (id j : Nat) (f : Notification → Notification) :
    (m.modify id f).notifications.lookup j =
      if j = id then (m.notifications.lookup id).map f else m.notifications.lookup j := by
  unfold modify
  split
  · rename_i n hn
    split
    · subst j; simp [AList.lookup_insert, hn]
    · rename_i hj
      exact AList.lookup_insert_ne hj
  · split
    · subst j; simp [*]
    · rfl

end MockRepo

theorem unstamped_congr (f : Notification → Notification)
    (hf : ∀ n, (f n).unstamped = (f n.unstamped).unstamped) {n n' : Notification}
    (he : n.unstamped = n'.unstamped) : (f n).unstamped = (f n').unstamped := by
  rw [hf n, he, ← hf n']

/-- Storing one row under its id keeps two maps alike. -/
theorem rows_insert {a : AList fun _ : Nat => Notification} {S : Store}
    (hrows : ∀ j, (a.lookup j).map Notification.unstamped = (S.rows j).map Notification.unstamped)
    (n : Notification) (j : Nat) :
    ((a.insert n.id n).lookup j).map Notification.unstamped =
      ((S.insert n).rows j).map Notification.unstamped := by
  rw [Store.insert_rows]
  split
  · subst j; simp [AList.lookup_insert]
  · rename_i hj
    rw [AList.lookup_insert_ne hj]
    exact hrows j

theorem rows_foldl_insert {a : AList fun _ : Nat => Notification} {S : Store}
    (hrows : ∀ j, (a.lookup j).map Notification.unstamped = (S.rows j).map Notification.unstamped)
    (ns : List Notification) (j : Nat) :
    ((ns.foldl (fun acc n => acc.insert n.id n) a).lookup j).map Notification.unstamped =
      ((ns.foldl Store.insert S).rows j).map Notification.unstamped := by
  induction ns generalizing a S with
  | nil => exact hrows j
  | cons n ns ih => exact ih (rows_insert hrows n)

namespace MockRepo.Mirrors

variable {m : MockRepo} {st : Store}

theorem lookup_some (h : m.Mirrors st) {id : Nat} {n : Notification}
    (hn : m.notifications.lookup id = some n) :
    ∃ n', st.rows id = some n' ∧ n.unstamped = n'.unstamped := by
  have := h.rows id
  simp only [hn, Option.map_some'] at this
  obtain ⟨n', hn', he⟩ := Option.map_eq_some'.mp this.symm
  exact ⟨n', hn', he.symm⟩

theorem rows_some (h : m.Mirrors st) {id : Nat} {n' : Notification} (hn' : st.rows id = some n') :
    ∃ n, m.notifications.lookup id = some n ∧ n.unstamped = n'.unstamped := by
  have := h.rows id
  simp only [hn', Option.map_some'] at this
  exact Option.map_eq_some'.mp this

/-- The mock's loop over the rows for a key finds one exactly when the unique index holds it. -/
theorem any_key_eq (h : m.Mirrors st) (k : String) :
    m.rows.any (·.idempotencyKey = some k) = st.keyTaken k := by
  apply Bool.eq_iff_iff.mpr
  simp only [List.any_eq_true, decide_eq_true_eq, Store.keyTaken, Store.mem_allRows]
  constructor
  · rintro ⟨n, hn, hk⟩
    obtain ⟨id, hid⟩ := MockRepo.mem_rows.mp hn
    obtain ⟨n', hn', he⟩ := h.lookup_some hid
    exact ⟨n', ⟨id, h.valid.lt_nextId hn', hn'⟩, (congrArg (·.idempotencyKey) he).symm.trans hk⟩
  · rintro ⟨n', ⟨id, -, hn'⟩, hk⟩
    obtain ⟨n, hid, he⟩ := h.rows_some hn'
    exact ⟨n, MockRepo.mem_rows.mpr ⟨id, hid⟩, (congrArg (·.idempotencyKey) he).trans hk⟩

theorem getById_eq (h : m.Mirrors st) (id : Nat) :
    (m.getById id).map Notification.unstamped = (st.getById id).map Notification.unstamped := by
  have := h.rows id
  simp only [MockRepo.getById, h.quiet.2.1, Store.getById]
  cases hm : m.notifications.lookup id <;> cases hs : st.rows id <;> simp_all [Except.map]

/-- With the key unique in the store, the mock's loop finds the row PostgreSQL finds, whatever
order it visits the map in. -/
theorem getByIdempotencyKey_eq (h : m.Mirrors st) {order : List Notification}
    (horder : order.Perm m.rows) (key : String) :
    (m.getByIdempotencyKey order key).map Notification.unstamped =
      (st.getByIdempotencyKey key).map Notification.unstamped := by
  simp only [MockRepo.getByIdempotencyKey, h.quiet.2.2, Store.getByIdempotencyKey]
  cases hs : st.allRows.find? (·.idempotencyKey = some key) with
  | none =>
    have hnone : order.find? (·.idempotencyKey = some key) = none := by
      refine List.find?_eq_none.mpr fun n hn hk => ?_
      obtain ⟨id, hid⟩ := MockRepo.mem_rows.mp (horder.subset hn)
      obtain ⟨n', hn', he⟩ := h.lookup_some hid
      have hk' : n'.idempotencyKey = some key :=
        (congrArg (·.idempotencyKey) he).symm.trans (of_decide_eq_true hk)
      exact absurd hs (List.find?_isSome.mpr ⟨n', Store.mem_allRows.mpr
        ⟨id, h.valid.lt_nextId hn', hn'⟩, by simpa using hk'⟩ |> Option.isSome_iff_ne_none.mp)
    rw [hnone]
  | some p =>
    obtain ⟨j, -, hp⟩ := Store.mem_allRows.mp (List.mem_of_find?_eq_some hs)
    have hpk : p.idempotencyKey = some key := by simpa using List.find?_some hs
    obtain ⟨n, hid, he⟩ := h.rows_some hp
    have hnk : n.idempotencyKey = some key := (congrArg (·.idempotencyKey) he).trans hpk
    cases ho : order.find? (·.idempotencyKey = some key) with
    | none =>
      exact absurd (List.find?_eq_none.mp ho n
        (horder.symm.subset (MockRepo.mem_rows.mpr ⟨j, hid⟩))) (by simpa using hnk)
    | some q =>
      obtain ⟨id, hq⟩ := MockRepo.mem_rows.mp (horder.subset (List.mem_of_find?_eq_some ho))
      obtain ⟨q', hq', hqe⟩ := h.lookup_some hq
      have hqk : q'.idempotencyKey = some key :=
        (congrArg (·.idempotencyKey) hqe).symm.trans (by simpa using List.find?_some ho)
      have hij : id = j := h.unique key id j (by simp [Store.keyAt, hq', hqk])
        (by simp [Store.keyAt, hp, hpk])
      subst hij
      rw [hp, Option.some.injEq] at hq'
      subst hq'
      exact congrArg (fun x => Except.ok x) hqe

/-- A write of one row keeps the mirror when the mock's change reads no timestamp's value and
agrees with the store's on the row there. -/
theorem modify (h : m.Mirrors st) (id : Nat) (f g : Notification → Notification) (now : Int)
    (hid : ∀ n, (g n).id = n.id) (hkey : ∀ n, (g n).idempotencyKey = n.idempotencyKey)
    (hf : ∀ n, (f n).unstamped = (f n.unstamped).unstamped)
    (hfg : ∀ n', st.rows id = some n' → f n' = g n') :
    (m.modify id f).Mirrors (st.update id g now) where
  quiet := by unfold MockRepo.modify; split <;> exact h.quiet
  valid := h.valid.update id g now hid
  unique k := by
    intro j j' hj hj'
    rw [Store.keyAt_update _ _ _ _ hkey] at hj hj'
    exact h.unique k j j' hj hj'
  rows j := by
    rw [MockRepo.lookup_modify, Store.update_rows]
    split
    · subst j
      cases hs : st.rows id with
      | none =>
        have := h.rows id
        rw [hs] at this
        simp only [Option.map_none', Option.map_eq_none'] at this
        simp [this]
      | some n' =>
        obtain ⟨n, hn, he⟩ := h.rows_some hs
        simp only [hn, Option.map_some', Option.some.injEq]
        exact (unstamped_congr f hf he).trans
          ((congrArg Notification.unstamped (hfg n' hs)).trans rfl)
    · exact h.rows j
  batches b := by unfold MockRepo.modify; split <;> exact h.batches b

/-- A write of one row by the same change keeps the mirror. -/
theorem update (h : m.Mirrors st) (id : Nat) (f : Notification → Notification) (now : Int)
    (hid : ∀ n, (f n).id = n.id) (hkey : ∀ n, (f n).idempotencyKey = n.idempotencyKey)
    (hf : ∀ n, (f n).unstamped = (f n.unstamped).unstamped) :
    (m.modify id f).Mirrors (st.update id f now) :=
  h.modify id f f now hid hkey hf fun _ _ => rfl

theorem insert (h : m.Mirrors st) {n : Notification} (hn : n.id = st.nextId)
    (hk : ∀ k, n.idempotencyKey = some k → st.keyTaken k = false) :
    ({ m with notifications := m.notifications.insert n.id n } : MockRepo).Mirrors (st.insert n) where
  quiet := h.quiet
  valid := h.valid.insert hn
  unique k := (h.unique k).insert fun hnk j hj => by
    have := hk k hnk
    rw [h.valid.keyTaken hj] at this
    exact Bool.noConfusion this
  rows := rows_insert h.rows n
  batches := h.batches

theorem createBatch (h : m.Mirrors st) (batchId : Nat) {ns : List Notification} (now : Int)
    (hns : ∀ k (hk : k < ns.length), ns[k].id = st.nextId + k)
    (hkey : ∀ n ∈ ns, n.idempotencyKey = none) :
    (m.createBatch batchId ns now).2.Mirrors
      (st.createBatch (Service.newBatch batchId ns.length now) ns) where
  quiet := h.quiet
  valid := h.valid.createBatch _ hns
  unique k j j' hj hj' :=
    h.unique k j j' (Store.keyAt_createBatch hkey hj) (Store.keyAt_createBatch hkey hj')
  rows := by
    unfold Store.createBatch
    refine rows_foldl_insert ?_ ns
    exact h.rows
  batches b := by
    simp only [MockRepo.createBatch, Store.createBatch_batches, Service.newBatch]
    by_cases hb : b = batchId
    · subst hb; simp [AList.lookup_insert, Service.newBatch]
    · rw [AList.lookup_insert_ne hb, Function.update_noteq hb]
      exact h.batches b

/-- One call of the service gets the same answer from both, up to the values of timestamps,
and keeps the mirror. -/
theorem call (h : m.Mirrors st) {order : MockRepo → List Notification}
    (horder : ∀ m', (order m').Perm m'.rows) {c : Call} (hc : c.Issued st) :
    (MockRepo.call order m c).1.unstamped = (PgRepository.call st c).1.unstamped ∧
      (MockRepo.call order m c).2.Mirrors (PgRepository.call st c).2 := by
  cases c with
  | create n =>
    have hn : n.id = st.nextId := hc
    unfold MockRepo.call PgRepository.call MockRepo.create Store.create
    rw [h.quiet.1]
    dsimp only
    cases hk : n.idempotencyKey with
    | none =>
      dsimp only
      have hins := h.insert hn fun k hk' => by simp [hk] at hk'
      exact ⟨rfl, by simpa only [h.quiet.1] using hins⟩
    | some k =>
      dsimp only
      rw [h.any_key_eq k]
      cases ht : st.keyTaken k
      · have hins := h.insert hn fun k' hk' => by
          rw [hk, Option.some.injEq] at hk'
          exact hk' ▸ ht
        rw [if_neg Bool.false_ne_true, if_neg Bool.false_ne_true]
        exact ⟨rfl, by simpa only [h.quiet.1] using hins⟩
      · rw [if_pos rfl, if_pos rfl]
        exact ⟨rfl, h⟩
  | getById id => exact ⟨congrArg Answer.row (h.getById_eq id), h⟩
  | getByIdempotencyKey key => exact ⟨congrArg Answer.row (h.getByIdempotencyKey_eq (horder m) key), h⟩
  | updateStatus id status now =>
    exact ⟨rfl, h.update id (fun n => { n with status := status }) now
      (fun _ => rfl) (fun _ => rfl) fun _ => by simp [Notification.unstamped, Function.comp_def]⟩
  | scheduleRetry id retryCount nextRetry errMsg now =>
    exact ⟨rfl, h.update id
      (fun n => { n with status := .failed, retryCount := retryCount,
                         nextRetryAt := some nextRetry, errorMessage := some errMsg })
      now (fun _ => rfl) (fun _ => rfl) fun _ => by simp [Notification.unstamped, Function.comp_def]⟩
  | cancel id now =>
    exact ⟨rfl, h.update id (fun n => { n with status := .cancelled }) now
      (fun _ => rfl) (fun _ => rfl) fun _ => by simp [Notification.unstamped, Function.comp_def]⟩
  | createBatch batchId ns now => exact ⟨rfl, h.createBatch batchId now hc.1 hc.2⟩

end MockRepo.Mirrors

end NotificationDispatch
