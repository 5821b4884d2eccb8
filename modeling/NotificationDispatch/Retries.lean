import NotificationDispatch.Tokens

/-! # Retry counts, backoff and the number of sends

`retry_count` is written only by `ScheduleRetry`, with one more than the count the worker read,
and only while that count is below `max_retries`, so it stays within `[0, max_retries]` in every
run (`Sys.retries_bounded`).

The rest holds when each row is dispatched by one goroutine at a time (`Sys.OneToken`), that is
in runs that keep the pollers' marks. `Sys.RetryShape` collects it:
* a worker's copy has the row's `retry_count`, since nothing else writes it meanwhile, so
  `ScheduleRetry` raises the count by one and it never decreases;
* a `failed` row with retries left has `next_retry_at`, a `scheduled` row has none, and a row
  held for dispatch has its `next_retry_at` behind the clock;
* the budget of a row: its `Send`s so far, its holds before `Send`, and one more while nothing
  holds it and a poller may take it, add up to at most `retry_count + 1`.
-/

namespace NotificationDispatch
set_option autoImplicit false

/-- Some poller's due query can return the row, at some time. -/
def Notification.admitted (n : Notification) : Bool :=
  PollKind.retry.admits n || PollKind.scheduled.admits n

theorem PollKind.admitted_of_admits {k : PollKind} {n : Notification} (h : k.admits n = true) :
    n.admitted = true := by
  cases k <;> simp [Notification.admitted, h]

theorem Notification.admitted_eq_false {n : Notification} (h1 : n.status ≠ .failed)
    (h2 : n.status ≠ .scheduled) : n.admitted = false := by
  simp [Notification.admitted, PollKind.admits, h1, h2]

theorem Store.update_not_admitted {st : Store} {id : Nat} {f : Notification → Notification}
    {now : Int} (hf : ∀ n, (f n).status ≠ .failed ∧ (f n).status ≠ .scheduled) {m : Notification}
    (hm : (st.update id f now).rows id = some m) : m.admitted = false := by
  rw [update_rows_self] at hm
  obtain ⟨n, -, rfl⟩ := Option.map_eq_some'.mp hm
  exact Notification.admitted_eq_false (hf n).1 (hf n).2

/-- The copy a worker holds from its `GetByID` to the store call that records the outcome. -/
def Proc.workerCopy : Proc → Option Notification
  | .worker (.claim n) | .worker (.limit n) | .worker (.send n) | .worker (.markSent n _)
  | .worker (.handleFailure n _) => some n
  | _ => none

/-- The copy a worker holds after its own `UpdateStatus(processing)`. -/
def Proc.claimedCopy : Proc → Option Notification
  | .worker (.limit n) | .worker (.send n) | .worker (.markSent n _)
  | .worker (.handleFailure n _) => some n
  | _ => none

theorem Proc.workerCopy_of_claimed {p : Proc} {c : Notification} (h : p.claimedCopy = some c) :
    p.workerCopy = some c := by
  cases p with
  | worker ph => cases ph <;> first | exact h | cases h
  | _ => cases h

theorem Proc.claimedCopy_eq_none {p : Proc} (h : p.workerCopy = none) : p.claimedCopy = none := by
  cases hc : p.claimedCopy with
  | none => rfl
  | some c => rw [workerCopy_of_claimed hc] at h; cases h

theorem Proc.tokens_of_workerCopy {p : Proc} {c : Notification} (h : p.workerCopy = some c) :
    1 ≤ p.tokens c.id := by
  cases p with
  | worker ph => cases ph <;> cases h <;> simp [tokens, carries, settles]
  | _ => cases h

theorem Proc.claimed_of_settles {p : Proc} {j : Nat} (h : 1 ≤ p.settles j) :
    ∃ c, p.claimedCopy = some c ∧ c.id = j := by
  have hn : ∀ n : Notification, 1 ≤ (if n.id = j then 1 else 0) → n.id = j := fun n h => by
    by_contra hn
    rw [if_neg hn] at h
    omega
  cases p with
  | worker ph =>
    cases ph
    case markSent n _ => exact ⟨n, rfl, hn n h⟩
    case handleFailure n _ => exact ⟨n, rfl, hn n h⟩
    all_goals exact absurd h (Nat.not_succ_le_zero 0)
  | _ => exact absurd h (Nat.not_succ_le_zero 0)

theorem Owner.next_workerCopy (o : Owner) (n : Notification) (rest : List Notification) :
    (o.next n rest).workerCopy = none := by
  cases rest <;> cases o <;> rfl

theorem Sys.sends_append (s : Sys) (k : Nat) (t : Int) (j : Nat) :
    { s with sendLog := s.sendLog ++ [(k, t)] }.sends j = s.sends j + if k = j then 1 else 0 := by
  simp [Sys.sends, List.countP_append, List.countP_cons]

theorem Sys.Coherent.sends_fresh {s : Sys} (hc : s.Coherent) {j : Nat} (hj : s.store.nextId ≤ j) :
    s.sends j = 0 :=
  List.countP_eq_zero.mpr fun e he hej => by
    have := hc.sends e he
    simp only [decide_eq_true_eq] at hej
    omega

/-- A fresh row: no retries, no `next_retry_at`, `pending` or `scheduled`. -/
theorem Service.buildNotification_fresh (req : CreateNotificationRequest) (key : String)
    (b : Option Nat) (id : Nat) (now : Int) :
    (buildNotification req key b id now).retryCount = 0 ∧
      (buildNotification req key b id now).nextRetryAt = none ∧
      ((buildNotification req key b id now).status = .pending ∨
        (buildNotification req key b id now).status = .scheduled) := by
  refine ⟨rfl, rfl, ?_⟩
  simp only [buildNotification]
  split <;> simp

theorem Service.batchChildren_fresh {reqs : List CreateNotificationRequest} {b firstId : Nat}
    {now : Int} {x : Notification} (hx : x ∈ batchChildren reqs b firstId now) :
    x.retryCount = 0 ∧ x.nextRetryAt = none ∧ (x.status = .pending ∨ x.status = .scheduled) := by
  obtain ⟨i, -, rfl⟩ := List.mem_mapIdx.mp hx
  exact buildNotification_fresh _ _ _ _ _

/-! ## The budget -/

/-- A step that drops holds of a row keeps its budget, provided the row can become takeable
again only by giving up a hold taken before `Send`, or no poller admits it. -/
theorem budget_le {S C T C' T' R : Nat} {adm : Bool}
    (hb : S + C + (if adm = true ∧ T = 0 then 1 else 0) ≤ R + 1) (hC : C' ≤ C) (hT : T' ≤ T)
    (hCT : C' < C ∨ T' = T ∨ adm = false) :
    S + C' + (if adm = true ∧ T' = 0 then 1 else 0) ≤ R + 1 := by
  rcases hCT with h | rfl | rfl
  · split at hb <;> split <;> omega
  · exact Nat.le_trans (Nat.add_le_add_right (Nat.add_le_add_left hC S) _) hb
  · simp only [Bool.false_eq_true, false_and, if_false, Nat.add_zero] at hb ⊢
    omega

/-! ## What one step writes to the retry columns -/

theorem Notification.maxRetries_eq_of_fixed {m n : Notification} (h : m.fixed = n.fixed) :
    m.maxRetries = n.maxRetries :=
  congrArg (fun x => x.2.2.2.2.2.1) h

/-- Every row's `retry_count` is at most its `max_retries`. -/
def Store.RetriesBounded (st : Store) : Prop :=
  ∀ j n, st.rows j = some n → n.retryCount ≤ n.maxRetries

/-- How row `j` of `s` can have become `n'`: it is new, with no retries, or it keeps
`max_retries` and either keeps `retry_count` or gets one more than the copy of a worker
settling a failed `Send`, which had retries left. -/
def Sys.RetryWrite (s : Sys) (j : Nat) (n' : Notification) : Prop :=
  (s.store.rows j = none ∧ n'.retryCount = 0) ∨
  ∃ n, s.store.rows j = some n ∧ n'.maxRetries = n.maxRetries ∧ (n'.retryCount = n.retryCount ∨
    ∃ (i : Nat) (c : Notification) (err : String),
      s.procs[i]? = some (.worker (.handleFailure c err)) ∧ c.id = j ∧
        c.retryCount < n.maxRetries ∧ n'.retryCount = c.retryCount + 1)

namespace Sys.RetryWrite

variable {s : Sys} {j : Nat} {n' : Notification}

theorem keep (h : s.store.rows j = some n') : s.RetryWrite j n' := .inr ⟨n', h, rfl, .inl rfl⟩

theorem update {id : Nat} {f : Notification → Notification} {now : Int}
    (hn' : (s.store.update id f now).rows j = some n')
    (hf : ∀ n, (f n).retryCount = n.retryCount ∧ (f n).maxRetries = n.maxRetries) :
    s.RetryWrite j n' := by
  obtain ⟨n, hn, ⟨-, rfl⟩ | rfl⟩ := Store.update_rows_some hn'
  · exact .inr ⟨n, hn, (hf n).2, .inl (hf n).1⟩
  · exact keep hn

theorem bounded (h : s.RetryWrite j n') (hb : s.store.RetriesBounded) :
    n'.retryCount ≤ n'.maxRetries := by
  rcases h with ⟨-, h0⟩ | ⟨n, hn, hm, hR | ⟨i, c, err, -, -, hlt, hR⟩⟩
  · omega
  · have := hb j n hn; omega
  · omega

end Sys.RetryWrite

/-- The only write of `retry_count` is `ScheduleRetry`'s, of the settling worker's copy plus
one, made only while the copy has retries left. -/
theorem Sys.retryWrite_step {cfg : Config} {s s' : Sys} {a : Action} (hco : s.Coherent)
    (hm : Moves cfg s a s') {j : Nat} {n' : Notification} (hn' : s'.store.rows j = some n') :
    s.RetryWrite j n' := by
  cases hm with
  | tick | create | createBatch | cancel | shutdown | restart | lookupHit | lookupMiss
    | insertConflict | batchFail | cancelFetch | cancelFail | offerOk | offerRefused | markFail
    | dequeueHigh | dequeueEmpty | receive | workerStop | fetchClaim | fetchSkip | fetchMissing
    | limitPanic | limitBurst | limitCancelled | limitGranted | sendOk | sendError | settlePanic
    | workerFail | batchCounts | batchWrite | batchCountsFail | poll | pollFail | pollerStop =>
    exact .keep hn'
  | createFail i req key ph => cases ph <;> exact .keep hn'
  | insertOk i req key st hp hk =>
    obtain ⟨rfl, -⟩ := Store.create_ok hk
    rcases Store.insert_rows_some hn' with ⟨rfl, rfl⟩ | h
    · exact .inl ⟨hco.store.fresh _ (Nat.le_refl _), rfl⟩
    · exact .keep h
  | batchInsert i reqs hp =>
    have hb : (s.store.createBatch (Service.newBatch s.store.nextBatchId reqs.length s.now)
        (Service.batchChildren reqs s.store.nextBatchId s.store.nextId s.now)).rows j = some n' := hn'
    cases h0 : s.store.rows j with
    | none =>
      rcases Store.createBatch_rows_some hb with h | h
      · exact .inl ⟨h0, (Service.batchChildren_fresh h).1⟩
      · rw [h0] at h; cases h
    | some n =>
      rw [Store.createBatch_rows_of_lt _ (Service.batchChildren_id_ge _ _ _ _)
        (hco.store.lt_nextId h0)] at hb
      exact .keep hb
  | cancelWrite | markOk | claim => exact .update hn' fun _ => ⟨rfl, rfl⟩
  | markSent i n msgId hp hc => split at hn' <;> exact .update hn' fun _ => ⟨rfl, rfl⟩
  | settle i n err st hp hc hf =>
    rcases Worker.handleFailure_some hf with ⟨-, rfl⟩ | ⟨hlt, d, -, rfl⟩
    · exact .update hn' fun _ => ⟨rfl, rfl⟩
    · obtain ⟨m, hm, hfix⟩ := hco.copy hp (List.mem_singleton_self n)
      obtain ⟨m', hm', ⟨rfl, rfl⟩ | rfl⟩ := Store.update_rows_some hn'
      · rw [hm] at hm'
        cases hm'
        exact .inr ⟨m, hm, rfl, .inr ⟨i, n, err, hp, rfl,
          (Notification.maxRetries_eq_of_fixed hfix).symm ▸ hlt, rfl⟩⟩
      · exact .keep hm'

theorem Sys.retries_bounded {cfg : Config} {s : Sys} (hr : Reachable cfg s) :
    s.store.RetriesBounded := by
  induction hr with
  | init => intro j n hn; cases hn
  | step hr _ hs ih =>
    exact fun j n hn => (Sys.retryWrite_step (Sys.Coherent.of_reach hr) (step_moves hs) hn).bounded ih

/-- What a run that keeps the pollers' marks keeps of the retry columns, and the budget of
`Send`s of each row. -/
structure Sys.RetryShape (s : Sys) : Prop where
  armed : ∀ j n, s.store.rows j = some n → n.status = .failed → n.retryCount < n.maxRetries →
    n.nextRetryAt.isSome
  unarmed : ∀ j n, s.store.rows j = some n → n.status = .scheduled → n.nextRetryAt = none
  due : ∀ j n t, s.store.rows j = some n → n.nextRetryAt = some t → 1 ≤ s.tokens j → t ≤ s.now
  fresh : ∀ p ∈ s.procs, ∀ c, p.workerCopy = some c →
    ∃ n, s.store.rows c.id = some n ∧ n.retryCount = c.retryCount
  claimed : ∀ p ∈ s.procs, ∀ c, p.claimedCopy = some c →
    ∀ n, s.store.rows c.id = some n → n.admitted = false
  budget : ∀ j n, s.store.rows j = some n →
    s.sends j + s.carriers j + (if n.admitted ∧ s.tokens j = 0 then 1 else 0) ≤ n.retryCount + 1

namespace Sys.RetryShape

variable {s : Sys}

/-- A worker that has sent a row and not yet recorded the outcome holds a row no poller admits. -/
theorem settler_not_admitted (h : s.RetryShape) {j : Nat} (hj : 1 ≤ s.settlers j)
    {n : Notification} (hn : s.store.rows j = some n) : n.admitted = false := by
  obtain ⟨p, hp, hs⟩ := exists_settler hj
  obtain ⟨c, hc, rfl⟩ := Proc.claimed_of_settles hs
  exact h.claimed p hp c hc n hn

/-- Goroutine `i` moves from `q` to `p` and the queue becomes `Q`, with no more holds on any row;
a copy `p` holds is `q`'s or fresh, and a claimed copy is `q`'s or of a row no poller admits. -/
theorem step_proc (h : s.RetryShape) {i : Nat} {q p : Proc} (hq : s.procs[i]? = some q)
    {Q : PriorityQueue} (hc : ∀ j, Q.count j + p.carries j ≤ s.queue.count j + q.carries j)
    (hs : ∀ j, p.settles j ≤ q.settles j)
    (hcopy : ∀ c, p.workerCopy = some c → q.workerCopy = some c ∨
      ∃ n, s.store.rows c.id = some n ∧ n.retryCount = c.retryCount)
    (hclaimed : ∀ c, p.claimedCopy = some c → q.claimedCopy = some c ∨
      ∀ n, s.store.rows c.id = some n → n.admitted = false) :
    ((s.withQueue Q).setProc i p).RetryShape := by
  have hC : ∀ j, ((s.withQueue Q).setProc i p).carriers j + s.queue.count j + q.carries j =
      s.carriers j + Q.count j + p.carries j := fun j => by
    have := carriers_setProc (s.withQueue Q) hq p j
    have := carriers_withQueue s Q j
    omega
  have hS : ∀ j, ((s.withQueue Q).setProc i p).settlers j + q.settles j =
      s.settlers j + p.settles j := settlers_setProc (s.withQueue Q) hq p
  have hq' := List.getElem?_mem hq
  refine ⟨h.armed, h.unarmed, fun j n t hn ht hj => h.due j n t hn ht ?_, fun p' hp' c hc' => ?_,
    fun p' hp' c hc' => ?_, fun j n hn => ?_⟩
  · have := hC j; have := hS j; have := hc j; have := hs j
    simp only [Sys.tokens] at hj ⊢
    omega
  · rcases List.mem_or_eq_of_mem_set hp' with hp' | rfl
    · exact h.fresh p' hp' c hc'
    · exact (hcopy c hc').elim (h.fresh q hq' c) id
  · rcases List.mem_or_eq_of_mem_set hp' with hp' | rfl
    · exact h.claimed p' hp' c hc'
    · exact (hclaimed c hc').elim (h.claimed q hq' c) id
  · have := hC j; have := hS j; have := hc j; have := hs j
    refine budget_le (h.budget j n hn) (by omega) (by simp only [Sys.tokens]; omega) ?_
    by_cases hlt : p.settles j < q.settles j
    · exact .inr (.inr (h.settler_not_admitted (by omega) hn))
    · by_cases hC' : ((s.withQueue Q).setProc i p).carriers j < s.carriers j
      · exact .inl hC'
      · exact .inr (.inl (by simp only [Sys.tokens]; omega))

theorem setProc (h : s.RetryShape) {i : Nat} {q p : Proc} (hq : s.procs[i]? = some q)
    (hc : ∀ j, p.carries j ≤ q.carries j) (hs : ∀ j, p.settles j ≤ q.settles j)
    (hcopy : ∀ c, p.workerCopy = some c → q.workerCopy = some c ∨
      ∃ n, s.store.rows c.id = some n ∧ n.retryCount = c.retryCount)
    (hclaimed : ∀ c, p.claimedCopy = some c → q.claimedCopy = some c ∨
      ∀ n, s.store.rows c.id = some n → n.admitted = false) :
    (s.setProc i p).RetryShape :=
  h.step_proc hq (Q := s.queue) (fun j => Nat.add_le_add_left (hc j) _) hs hcopy hclaimed

/-- A goroutine lets go of everything it held. -/
theorem drop (h : s.RetryShape) {i : Nat} {q p : Proc} (hq : s.procs[i]? = some q)
    (hp : ∀ j, p.tokens j = 0) (hpw : p.workerCopy = none) : (s.setProc i p).RetryShape :=
  h.setProc hq (fun j => by have := hp j; simp only [Proc.tokens] at this; omega)
    (fun j => by have := hp j; simp only [Proc.tokens] at this; omega)
    (fun c hc => by rw [hpw] at hc; cases hc)
    (fun c hc => by rw [Proc.workerCopy_of_claimed hc] at hpw; cases hpw)

theorem spawn (h : s.RetryShape) {p : Proc} (hp : ∀ j, p.tokens j = 0) (hpw : p.workerCopy = none) :
    (s.spawn p).RetryShape := by
  have hc0 : ∀ j, p.carries j = 0 := fun j => by have := hp j; simp only [Proc.tokens] at this; omega
  refine ⟨h.armed, h.unarmed, fun j n t hn ht hj => h.due j n t hn ht ?_, fun p' hp' c hc => ?_,
    fun p' hp' c hc => ?_, fun j n hn => ?_⟩
  · rwa [tokens_spawn, hp, Nat.add_zero] at hj
  · rcases List.mem_append.mp hp' with hp' | hp'
    · exact h.fresh p' hp' c hc
    · rw [List.mem_singleton.mp hp', hpw] at hc; cases hc
  · rcases List.mem_append.mp hp' with hp' | hp'
    · exact h.claimed p' hp' c hc
    · rw [List.mem_singleton.mp hp'] at hc
      rw [Proc.workerCopy_of_claimed hc] at hpw; cases hpw
  · rw [carriers_spawn, tokens_spawn, hp, hc0, Nat.add_zero, Nat.add_zero]
    exact h.budget j n hn

/-- A goroutine that held nothing takes rows nothing held, each once: rows whose `Send`s are
within their `retry_count` and whose `next_retry_at` has passed. -/
theorem take (h : s.RetryShape) {i : Nat} {q p : Proc} (hq : s.procs[i]? = some q)
    (hq0 : ∀ j, q.tokens j = 0) (hps : ∀ j, p.settles j = 0) (hpw : p.workerCopy = none)
    (hp : ∀ j, 1 ≤ p.carries j → s.tokens j = 0 ∧ p.carries j ≤ 1 ∧
      ∀ n, s.store.rows j = some n → s.sends j ≤ n.retryCount ∧
        ∀ t, n.nextRetryAt = some t → t ≤ s.now) :
    (s.setProc i p).RetryShape := by
  have hqc : ∀ j, q.carries j = 0 ∧ q.settles j = 0 := fun j => by
    have := hq0 j; simp only [Proc.tokens] at this; omega
  have hC : ∀ j, (s.setProc i p).carriers j = s.carriers j + p.carries j := fun j => by
    have := carriers_setProc s hq p j; have := hqc j; omega
  have hT : ∀ j, (s.setProc i p).tokens j = s.tokens j + p.carries j := fun j => by
    have := settlers_setProc s hq p j; have := hqc j; have := hps j
    simp only [Sys.tokens, hC]
    omega
  refine ⟨h.armed, h.unarmed, fun j n t hn ht hj => ?_, fun p' hp' c hc => ?_,
    fun p' hp' c hc => ?_, fun j n hn => ?_⟩
  · by_cases h1 : 1 ≤ p.carries j
    · exact ((hp j h1).2.2 n hn).2 t ht
    · exact h.due j n t hn ht (by rw [hT] at hj; omega)
  · rcases List.mem_or_eq_of_mem_set hp' with hp' | rfl
    · exact h.fresh p' hp' c hc
    · rw [hpw] at hc; cases hc
  · rcases List.mem_or_eq_of_mem_set hp' with hp' | rfl
    · exact h.claimed p' hp' c hc
    · rw [Proc.workerCopy_of_claimed hc] at hpw; cases hpw
  · have hb := h.budget j n hn
    rw [hC, hT]
    by_cases h1 : 1 ≤ p.carries j
    · obtain ⟨ht0, hle, hrow⟩ := hp j h1
      have := (hrow n hn).1
      have hc0 : s.carriers j = 0 := by simp only [Sys.tokens] at ht0; omega
      rw [if_neg fun hc => by have := hc.2; omega]
      show s.sends j + (s.carriers j + p.carries j) + 0 ≤ n.retryCount + 1
      omega
    · rw [show p.carries j = 0 by omega, Nat.add_zero, Nat.add_zero]
      exact hb

/-- `INSERT`s at fresh ids: the new rows have no retries, no `next_retry_at`, are `pending` or
`scheduled`, and nothing has sent or holds them. -/
theorem insertFresh (h : s.RetryShape) (hco : s.Coherent) {st : Store}
    (hold : ∀ j, j < s.store.nextId → st.rows j = s.store.rows j)
    (hnew : ∀ j n, st.rows j = some n → s.store.nextId ≤ j →
      n.retryCount = 0 ∧ n.nextRetryAt = none ∧ (n.status = .pending ∨ n.status = .scheduled)) :
    (s.withStore st).RetryShape := by
  have hrow : ∀ j n, st.rows j = some n → s.store.rows j = some n ∨ (s.store.nextId ≤ j ∧
      n.retryCount = 0 ∧ n.nextRetryAt = none ∧ (n.status = .pending ∨ n.status = .scheduled)) :=
    fun j n hn => by
      by_cases hj : j < s.store.nextId
      · exact .inl (hold j hj ▸ hn)
      · exact .inr ⟨by omega, hnew j n hn (by omega)⟩
  have hcopy : ∀ p ∈ s.procs, ∀ c, p.workerCopy = some c → st.rows c.id = s.store.rows c.id :=
    fun p hp c hc => by
      obtain ⟨n, hn, -⟩ := h.fresh p hp c hc
      exact hold _ (hco.store.lt_nextId hn)
  refine ⟨fun j n hn hs hr => ?_, fun j n hn hs => ?_, fun j n t hn ht hj => ?_,
    fun p hp c hc => ?_, fun p hp c hc n hn => ?_, fun j n hn => ?_⟩
  · rcases hrow j n hn with hn | ⟨-, -, -, hst | hst⟩
    · exact h.armed j n hn hs hr
    all_goals rw [hst] at hs; cases hs
  · rcases hrow j n hn with hn | ⟨-, -, hnext, -⟩
    exacts [h.unarmed j n hn hs, hnext]
  · rcases hrow j n hn with hn | ⟨-, -, hnext, -⟩
    · exact h.due j n t hn ht hj
    · rw [hnext] at ht; cases ht
  · show ∃ n, st.rows c.id = some n ∧ _
    rw [hcopy p hp c hc]
    exact h.fresh p hp c hc
  · have hn' : s.store.rows c.id = some n := by
      rw [← hcopy p hp c (Proc.workerCopy_of_claimed hc)]; exact hn
    exact h.claimed p hp c hc n hn'
  · rcases hrow j n hn with hn | ⟨hj, hr, -, -⟩
    · exact h.budget j n hn
    · show s.sends j + s.carriers j + _ ≤ _
      have ht0 := hco.tokens_fresh hj
      rw [hco.sends_fresh hj, hr]
      simp only [Sys.tokens] at ht0
      split <;> omega

/-- An `UPDATE` that writes neither `failed` nor `scheduled` and leaves the retry columns. -/
theorem update (h : s.RetryShape) {id : Nat} {f : Notification → Notification} {now : Int}
    (hf : ∀ n, (f n).retryCount = n.retryCount ∧ (f n).nextRetryAt = n.nextRetryAt ∧
      (f n).status ≠ .failed ∧ (f n).status ≠ .scheduled) :
    (s.withStore (s.store.update id f now)).RetryShape := by
  have hst : ∀ n, (f n).status ≠ .failed ∧ (f n).status ≠ .scheduled := fun n => (hf n).2.2
  refine ⟨fun j m hm hs hr => ?_, fun j m hm hs => ?_, fun j m t hm ht hj => ?_,
    fun p hp c hc => ?_, fun p hp c hc m hm => ?_, fun j m hm => ?_⟩
  · obtain ⟨n, hn, ⟨-, rfl⟩ | rfl⟩ := Store.update_rows_some hm
    · exact absurd hs (hf n).2.2.1
    · exact h.armed j _ hn hs hr
  · obtain ⟨n, hn, ⟨-, rfl⟩ | rfl⟩ := Store.update_rows_some hm
    · exact absurd hs (hf n).2.2.2
    · exact h.unarmed j _ hn hs
  · obtain ⟨n, hn, ⟨-, rfl⟩ | rfl⟩ := Store.update_rows_some hm
    · exact h.due j n t hn (((hf n).2.1).symm ▸ ht) hj
    · exact h.due j _ t hn ht hj
  · obtain ⟨n, hn, hr⟩ := h.fresh p hp c hc
    by_cases hid : c.id = id
    · subst hid
      exact ⟨{ f n with updatedAt := now }, by simp [hn], (hf n).1.trans hr⟩
    · exact ⟨n, by rw [withStore_store, Store.update_rows_of_ne _ _ _ hid]; exact hn, hr⟩
  · obtain ⟨n, hn, ⟨hid, rfl⟩ | rfl⟩ := Store.update_rows_some hm
    · exact Notification.admitted_eq_false (hf n).2.2.1 (hf n).2.2.2
    · exact h.claimed p hp c hc _ hn
  · obtain ⟨n, hn, ⟨hid, rfl⟩ | rfl⟩ := Store.update_rows_some hm
    · have hb := h.budget j n hn
      rw [show ({ f n with updatedAt := now } : Notification).admitted = false from
        Notification.admitted_eq_false (hf n).2.2.1 (hf n).2.2.2]
      show s.sends j + s.carriers j + (if false = true ∧ _ then 1 else 0) ≤ (f n).retryCount + 1
      rw [(hf n).1]
      simp only [Bool.false_eq_true, false_and, if_false, Nat.add_zero]
      split at hb <;> omega
    · exact h.budget j _ hn

/-- An `UPDATE` of row `id` that nothing holds and no goroutine has a copy of, into a row that is
armed if it is `failed` with retries left and unarmed if it is `scheduled`, and whose budget
holds. -/
theorem rewrite (h : s.RetryShape) {id : Nat} {f : Notification → Notification} {now : Int}
    (hT : s.tokens id = 0) (hcopy : ∀ p ∈ s.procs, ∀ c, p.workerCopy = some c → c.id ≠ id)
    (hf : ∀ n, s.store.rows id = some n →
      ((f n).status = .failed → (f n).retryCount < (f n).maxRetries → (f n).nextRetryAt.isSome) ∧
      ((f n).status = .scheduled → (f n).nextRetryAt = none) ∧
      s.sends id + (if (f n).admitted then 1 else 0) ≤ (f n).retryCount + 1) :
    (s.withStore (s.store.update id f now)).RetryShape := by
  have hsame : ∀ p ∈ s.procs, ∀ c, p.workerCopy = some c →
      (s.store.update id f now).rows c.id = s.store.rows c.id := fun p hp c hc =>
    Store.update_rows_of_ne _ _ _ (hcopy p hp c hc)
  refine ⟨fun j m hm hs hr => ?_, fun j m hm hs => ?_, fun j m t hm ht hj => ?_,
    fun p hp c hc => ?_, fun p hp c hc m hm => ?_, fun j m hm => ?_⟩
  · obtain ⟨n, hn, ⟨rfl, rfl⟩ | rfl⟩ := Store.update_rows_some hm
    · exact (hf n hn).1 hs hr
    · exact h.armed j _ hn hs hr
  · obtain ⟨n, hn, ⟨rfl, rfl⟩ | rfl⟩ := Store.update_rows_some hm
    · exact (hf n hn).2.1 hs
    · exact h.unarmed j _ hn hs
  · obtain ⟨n, hn, ⟨rfl, rfl⟩ | rfl⟩ := Store.update_rows_some hm
    · have hj' : 1 ≤ s.tokens j := hj
      omega
    · exact h.due j _ t hn ht hj
  · show ∃ n, (s.store.update id f now).rows c.id = some n ∧ _
    rw [hsame p hp c hc]
    exact h.fresh p hp c hc
  · have hm' : s.store.rows c.id = some m := by
      rw [← hsame p hp c (Proc.workerCopy_of_claimed hc)]; exact hm
    exact h.claimed p hp c hc m hm'
  · obtain ⟨n, hn, ⟨rfl, rfl⟩ | rfl⟩ := Store.update_rows_some hm
    · have hb := (hf n hn).2.2
      have hc0 : s.carriers j = 0 := by simp only [Sys.tokens] at hT; omega
      show s.sends j + s.carriers j + (if (f n).admitted = true ∧ s.tokens j = 0 then 1 else 0) ≤
        (f n).retryCount + 1
      rw [hc0, hT]
      simpa using hb
    · exact h.budget j _ hn

/-- `handleFailure`'s write, by a worker that has let go of the row, whose copy has the row's
`retry_count` and `max_retries`. -/
theorem settle (h : s.RetryShape) {c : Notification} (hT : s.tokens c.id = 0) {n : Notification}
    (hn : s.store.rows c.id = some n) (hR : n.retryCount = c.retryCount)
    (hm : n.maxRetries = c.maxRetries) {backoff : List Int} {err : String} {st : Store}
    (hf : Worker.handleFailure backoff s.store c err s.now = some st) : (s.withStore st).RetryShape := by
  have hcopy : ∀ p ∈ s.procs, ∀ c', p.workerCopy = some c' → c'.id ≠ c.id := fun p hp c' hc' he => by
    have := Proc.tokens_of_workerCopy hc'
    have := tokens_le_of_mem hp c'.id
    rw [he] at *
    omega
  have hS : s.sends c.id ≤ n.retryCount + 1 := by have := h.budget _ n hn; omega
  rcases Worker.handleFailure_some hf with ⟨hle, rfl⟩ | ⟨hlt, d, -, rfl⟩
  · refine h.rewrite hT hcopy fun n' hn' => ?_
    rw [hn] at hn'
    cases hn'
    refine ⟨fun _ hr => (by simp only at hr; omega), fun hs => (by cases hs), ?_⟩
    simp [Notification.admitted, PollKind.admits]
    omega
  · refine h.rewrite hT hcopy fun n' hn' => ⟨fun _ _ => rfl, fun hs => (by cases hs), ?_⟩
    rw [hn] at hn'
    cases hn'
    show s.sends c.id + _ ≤ c.retryCount + 1 + 1
    split <;> omega

/-- A worker's `Send`: its hold before `Send` becomes one after, and the send log grows. -/
theorem send (h : s.RetryShape) {i : Nat} {n : Notification}
    (hq : s.procs[i]? = some (.worker (.send n))) {p : Proc} (hpc : ∀ j, p.carries j = 0)
    (hps : ∀ j, p.settles j = if n.id = j then 1 else 0) (hpw : p.workerCopy = some n)
    (hpcl : p.claimedCopy = some n) :
    ({ s with sendLog := s.sendLog ++ [(n.id, s.now)] }.setProc i p).RetryShape := by
  have hC : ∀ j, ({ s with sendLog := s.sendLog ++ [(n.id, s.now)] }.setProc i p).carriers j +
      (if n.id = j then 1 else 0) = s.carriers j := fun j => by
    have := carriers_setProc { s with sendLog := s.sendLog ++ [(n.id, s.now)] } hq p j
    rw [hpc] at this
    exact this
  have hS : ∀ j, ({ s with sendLog := s.sendLog ++ [(n.id, s.now)] }.setProc i p).settlers j =
      s.settlers j + (if n.id = j then 1 else 0) := fun j => by
    have := settlers_setProc { s with sendLog := s.sendLog ++ [(n.id, s.now)] } hq p j
    rw [hps] at this
    exact this
  have hT : ∀ j, ({ s with sendLog := s.sendLog ++ [(n.id, s.now)] }.setProc i p).tokens j =
      s.tokens j := fun j => by
    have := hC j; have := hS j
    simp only [Sys.tokens]
    omega
  have hq' := List.getElem?_mem hq
  refine ⟨h.armed, h.unarmed, fun j m t hm ht hj => h.due j m t hm ht (hT j ▸ hj),
    fun p' hp' c hc => ?_, fun p' hp' c hc => ?_, fun j m hm => ?_⟩
  · rcases List.mem_or_eq_of_mem_set hp' with hp' | rfl
    · exact h.fresh p' hp' c hc
    · rw [hpw] at hc; exact h.fresh _ hq' c hc
  · rcases List.mem_or_eq_of_mem_set hp' with hp' | rfl
    · exact h.claimed p' hp' c hc
    · rw [hpcl] at hc; exact h.claimed _ hq' c hc
  · have hb := h.budget j m hm
    have := hC j
    have hsend : ({ s with sendLog := s.sendLog ++ [(n.id, s.now)] }.setProc i p).sends j =
        s.sends j + if n.id = j then 1 else 0 := Sys.sends_append s n.id s.now j
    rw [hT, hsend]
    by_cases hnj : n.id = j
    · rw [if_pos hnj] at this ⊢; omega
    · rw [if_neg hnj] at this ⊢; omega

theorem restart (h : s.RetryShape) (cfg : Config) :
    ({ s with
      queue := .empty, procs := initProcs cfg, cancelled := false, startedAt := s.now } : Sys).RetryShape := by
  have h0 : ∀ j, ({ s with
      queue := .empty, procs := initProcs cfg, cancelled := false, startedAt := s.now } : Sys).tokens j = 0 :=
    fun j =>
    tokens_eq_zero (PriorityQueue.count_empty j) fun p hp => initProcs_idle cfg p hp j
  have hw : ∀ p ∈ initProcs cfg, p.workerCopy = none := by
    intro p hp
    rcases List.mem_append.mp hp with hp | hp
    · rw [List.eq_of_mem_replicate hp]; rfl
    · simp only [List.mem_cons, List.mem_singleton, List.not_mem_nil, or_false] at hp
      rcases hp with rfl | rfl <;> rfl
  refine ⟨h.armed, h.unarmed, fun j n t hn ht hj => (by rw [h0] at hj; cases hj),
    fun p hp c hc => (by rw [hw p hp] at hc; cases hc),
    fun p hp c hc => (by have := hw p hp; rw [Proc.workerCopy_of_claimed hc] at this; cases this),
    fun j n hn => ?_⟩
  have := h0 j
  simp only [Sys.tokens] at this
  refine budget_le (h.budget j n hn) (by omega) (by rw [h0]; exact Nat.zero_le _) ?_
  by_cases hc : 0 < s.carriers j
  · exact .inl (by omega)
  · by_cases ht : s.tokens j = 0
    · exact .inr (.inl (by rw [h0, ht]))
    · exact .inr (.inr (h.settler_not_admitted (by simp only [Sys.tokens] at ht; omega) hn))

theorem init (cfg : Config) : (Sys.init cfg).RetryShape := by
  have hw : ∀ p ∈ initProcs cfg, p.workerCopy = none := by
    intro p hp
    rcases List.mem_append.mp hp with hp | hp
    · rw [List.eq_of_mem_replicate hp]; rfl
    · simp only [List.mem_cons, List.mem_singleton, List.not_mem_nil, or_false] at hp
      rcases hp with rfl | rfl <;> rfl
  exact ⟨fun _ _ h => (nomatch h), fun _ _ h => (nomatch h), fun _ _ _ h => (nomatch h),
    fun p hp c hc => (by rw [hw p hp] at hc; cases hc),
    fun p hp c hc => (by have := hw p hp; rw [Proc.workerCopy_of_claimed hc] at this; cases this),
    fun _ _ h => (nomatch h)⟩

/-- Every step keeps the retry columns and the budgets, in a state where each row has one hold. -/
theorem step (h : s.RetryShape) (ht : s.OneToken) (hco : s.Coherent)
    (hu : ∀ k, s.procs.countP (Proc.ofPoller k) ≤ 1) {cfg : Config} {a : Action} {s' : Sys}
    (hm : Moves cfg s a s') : s'.RetryShape := by
  cases hm with
  | tick t hle =>
    refine ⟨h.armed, h.unarmed, fun j n t' hn ht' hj => ?_, h.fresh, h.claimed, h.budget⟩
    have := h.due j n t' hn ht' hj
    show t' ≤ t
    omega
  | shutdown => exact ⟨h.armed, h.unarmed, h.due, h.fresh, h.claimed, h.budget⟩
  | restart => exact h.restart cfg
  | create req key =>
    exact h.spawn (fun _ => by unfold Service.startCreate; split <;> rfl)
      (by unfold Service.startCreate; split <;> rfl)
  | createBatch reqs =>
    exact h.spawn (fun _ => by (unfold Service.startCreateBatch; repeat' split) <;> rfl)
      (by (unfold Service.startCreateBatch; repeat' split) <;> rfl)
  | cancel => exact h.spawn (fun _ => rfl) rfl
  | lookupHit | lookupMiss | insertConflict | batchFail | cancelFail | dequeueEmpty | workerStop
    | fetchSkip | fetchMissing | limitPanic | limitBurst | limitCancelled | settlePanic
    | workerFail | batchCounts | batchCountsFail | pollFail | pollerStop =>
    exact h.drop ‹_› (by intro; rfl) (by rfl)
  | createFail i req key ph => cases ph <;> exact h.drop ‹_› (by intro; rfl) (by rfl)
  | cancelFetch i id hp =>
    exact h.drop hp (fun _ => by split <;> (try split) <;> rfl) (by split <;> (try split) <;> rfl)
  | insertOk i req key st hp hk =>
    obtain ⟨rfl, -⟩ := Store.create_ok hk
    set n := Service.buildNotification req key none s.store.nextId s.now with hn
    have hs : (s.withStore (s.store.insert n)).RetryShape :=
      h.insertFresh hco (fun j hj => by rw [Store.insert_rows, if_neg (by show j ≠ s.store.nextId; omega)])
        fun j m hm hj => by
          rcases Store.insert_rows_some hm with ⟨-, rfl⟩ | hm
          · exact Service.buildNotification_fresh _ _ _ _ _
          · exact absurd (hco.store.lt_nextId hm) (by omega)
    split
    · exact hs.drop hp (by intro; rfl) (by rfl)
    · refine hs.take hp (by intro; rfl) (by intro; rfl) (by rfl) fun j hj => ?_
      have hj' : n.id = j := by
        simp only [Proc.carries, List.countP_singleton, decide_eq_true_eq] at hj
        split at hj
        · assumption
        · cases hj
      subst hj'
      refine ⟨hco.tokens_fresh (Nat.le_refl _), by simp [Proc.carries], fun m hm => ?_⟩
      simp only [withStore_store, Store.insert_rows, if_true, Option.some.injEq] at hm
      subst hm
      have h0 : s.sends n.id = 0 := hco.sends_fresh (Nat.le_refl _)
      exact ⟨by show s.sends n.id ≤ _; omega,
        fun t ht => by rw [(Service.buildNotification_fresh _ _ _ _ _).2.1] at ht; cases ht⟩
  | batchInsert i reqs hp =>
    have hid := Service.batchChildren_id reqs s.store.nextBatchId s.store.nextId s.now
    have hge := Service.batchChildren_id_ge reqs s.store.nextBatchId s.store.nextId s.now
    have hs : (s.withStore (s.store.createBatch (Service.newBatch s.store.nextBatchId reqs.length s.now)
        (Service.batchChildren reqs s.store.nextBatchId s.store.nextId s.now))).RetryShape :=
      h.insertFresh hco (fun j hj => Store.createBatch_rows_of_lt _ hge hj) fun j m hm hj => by
        rcases Store.createBatch_rows_some hm with hm' | hm'
        · exact Service.batchChildren_fresh hm'
        · exact absurd (hco.store.lt_nextId hm') (by omega)
    dsimp only [Service.createBatchStep]
    split
    · exact hs.drop hp (by intro; rfl) (by rfl)
    · rename_i m rest hf
      refine hs.take hp (by intro; rfl) (by intro; rfl) (by rfl) fun j hj => ?_
      obtain ⟨x, hx, hxj⟩ := List.countP_pos_iff.mp hj
      simp only [decide_eq_true_eq] at hxj
      subst hxj
      have hx' : x ∈ (Service.batchChildren reqs s.store.nextBatchId s.store.nextId s.now).filter
          (·.scheduledAt.isNone) := hf ▸ hx
      rw [List.mem_filter] at hx'
      refine ⟨hco.tokens_fresh (hge x hx'.1),
        countP_id_le_one (hf ▸ (Service.batchChildren_distinct _ _ _ _).filter _) x.id,
        fun y hy => ?_⟩
      rw [withStore_store, Store.createBatch_rows_mem _ hid hx'.1] at hy
      cases hy
      have h0 : s.sends x.id = 0 := hco.sends_fresh (hge x hx'.1)
      exact ⟨by show s.sends x.id ≤ _; omega,
        fun t ht => by rw [(Service.batchChildren_fresh hx'.1).2.1] at ht; cases ht⟩
  | cancelWrite i id n hp =>
    exact (h.update fun _ => ⟨(by rfl), (by rfl), (by simp), (by simp)⟩).drop hp (by intro; rfl) (by rfl)
  | offerOk i o n rest q hp hq =>
    refine h.step_proc hp (fun j => ?_) (fun _ => Nat.le_refl _) (fun c hc => by cases hc)
      (fun c hc => by cases hc)
    have := PriorityQueue.count_enqueue hq j
    simp only [Proc.carries, List.countP_cons, decide_eq_true_eq, Notification.item] at this ⊢
    omega
  | offerRefused i o n rest e hp hq =>
    refine h.setProc hp (fun j => ?_) (fun j => by rw [Owner.next_settles]; exact Nat.zero_le _)
      (fun c hc => by rw [Owner.next_workerCopy] at hc; cases hc)
      (fun c hc => by rw [Proc.claimedCopy_eq_none (Owner.next_workerCopy o _ rest)] at hc; cases hc)
    rw [Owner.next_carries]
    simp only [Proc.carries, List.countP_cons]
    omega
  | markOk i o n rest hp hc =>
    refine (h.update fun _ => ⟨(by rfl), (by rfl), (by simp), (by simp)⟩).setProc hp
      (fun j => by rw [Owner.next_carries]; exact Nat.le_refl _)
      (fun j => by rw [Owner.next_settles]; exact Nat.zero_le _)
      (fun c hc => by rw [Owner.next_workerCopy] at hc; cases hc)
      (fun c hc => by rw [Proc.claimedCopy_eq_none (Owner.next_workerCopy o _ rest)] at hc; cases hc)
  | markFail i o n rest msg hp =>
    exact h.setProc hp (fun j => by rw [Owner.next_carries]; exact Nat.le_refl _)
      (fun j => by rw [Owner.next_settles]; exact Nat.zero_le _)
      (fun c hc => by rw [Owner.next_workerCopy] at hc; cases hc)
      (fun c hc => by rw [Proc.claimedCopy_eq_none (Owner.next_workerCopy o _ rest)] at hc; cases hc)
  | dequeueHigh i it q hp hq | receive i t it q hp hq =>
    refine h.step_proc hp (fun j => ?_) (fun _ => Nat.le_refl _) (fun c hc => by cases hc)
      (fun c hc => by cases hc)
    have := PriorityQueue.count_receive hq j
    simp only [Proc.carries]
    omega
  | fetchClaim i it n hp hc hn hs =>
    have hid := hco.store.ids _ _ hn
    refine h.setProc hp (fun j => by simp only [Proc.carries, hid, Nat.le_refl])
      (fun _ => Nat.le_refl _) (fun c hc' => .inr ⟨c, ?_, rfl⟩) (fun c hc' => by cases hc')
    cases hc'
    rw [hid]
    exact hn
  | claim i n hp hc =>
    have hf : ∀ m : Notification, ({ m with status := .processing } : Notification).status ≠ .failed ∧
        ({ m with status := .processing } : Notification).status ≠ .scheduled :=
      fun _ => ⟨by simp, by simp⟩
    refine (h.update (f := fun m => { m with status := .processing }) fun _ => ⟨rfl, rfl, hf _⟩).setProc hp (fun _ => Nat.le_refl _)
      (fun _ => Nat.le_refl _) (fun c hc' => .inl hc') (fun c hc' => .inr ?_)
    cases hc'
    exact fun m hm => Store.update_not_admitted hf hm
  | limitGranted i n hp =>
    exact h.setProc hp (fun _ => Nat.le_refl _) (fun _ => Nat.le_refl _) (fun c hc => .inl hc)
      (fun c hc => .inl hc)
  | sendOk i n msgId hp hc =>
    exact h.send hp (p := .worker (.markSent n msgId)) (fun _ => rfl) (fun _ => rfl) rfl rfl
  | sendError i n err hp =>
    exact h.send hp (p := .worker (.handleFailure n err)) (fun _ => rfl) (fun _ => rfl) rfl rfl
  | markSent i n msgId hp hc =>
    have h' : ((s.withStore (s.store.markSent n.id msgId s.now s.now)).setProc i
        (.worker .dequeue)).RetryShape :=
      (h.update fun _ => ⟨(by rfl), (by rfl), (by simp), (by simp)⟩).drop hp (by intro; rfl) (by rfl)
    split
    · exact h'.spawn (fun _ => rfl) rfl
    · exact h'
  | settle i n err st hp hc hf =>
    have h1 := h.drop hp (p := .worker .dequeue) (by intro; rfl) (by rfl)
    have hT := ht.tokens_drop hp (p := .worker .dequeue) (by intro; rfl)
      (j := n.id) (by simp [Proc.tokens, Proc.carries, Proc.settles])
    obtain ⟨m, hm, hR⟩ := h.fresh _ (List.getElem?_mem hp) n rfl
    obtain ⟨m', hm', hfix⟩ := hco.copy hp (List.mem_singleton_self n)
    rw [hm] at hm'
    cases hm'
    exact h1.settle hT hm hR (Notification.maxRetries_eq_of_fixed hfix) hf
  | batchWrite i b c t hp =>
    have hb : (s.withStore (s.store.writeBatchCounts b c t)).RetryShape :=
      ⟨h.armed, h.unarmed, h.due, h.fresh, h.claimed, h.budget⟩
    exact hb.drop hp (by intro; rfl) (by rfl)
  | poll i k found hp hcan hf =>
    cases found with
    | nil => exact h.drop hp (by intro; rfl) (by rfl)
    | cons m rest =>
      refine h.take hp (by intro; rfl) (by intro; rfl) (by rfl) fun j hj => ?_
      obtain ⟨x, hx, hxj⟩ := List.countP_pos_iff.mp hj
      simp only [decide_eq_true_eq] at hxj
      subst hxj
      obtain ⟨hrow, hdue⟩ := hf.mem hx
      have hrow' := hco.store.mem_allRows hrow
      have hadm := PollKind.admits_of_due hdue
      have ht0 := ht.tokens_of_poll (hu k) hp hcan ⟨x, hrow', hadm⟩
      refine ⟨ht0, countP_id_le_one (hf.ids_distinct hco.store) x.id, fun y hy => ?_⟩
      rw [hrow'] at hy
      cases hy
      have hb := h.budget x.id x hrow'
      rw [if_pos ⟨PollKind.admitted_of_admits hadm, ht0⟩] at hb
      refine ⟨by omega, fun t htn => ?_⟩
      cases k with
      | retry =>
        simp only [PollKind.due, Store.dueRetry, htn, Bool.and_eq_true, decide_eq_true_eq] at hdue
        exact hdue.2
      | scheduled =>
        simp only [PollKind.admits, decide_eq_true_eq] at hadm
        rw [h.unarmed x.id x hrow' hadm] at htn
        cases htn

theorem of_reach {cfg : Config} (hr : Reach cfg (fun s a => keepsPollerMarks s a = true) s) :
    s.RetryShape := by
  induction hr with
  | init => exact init cfg
  | step hr _ hs ih =>
    exact ih.step (Sys.OneToken.of_reach hr) (Sys.Coherent.of_reach hr)
      (Sys.pollers_unique hr.reachable) (step_moves hs)

/-- In a run that keeps the pollers' marks a worker's copy has the row's `retry_count`, so no
step lowers it. -/
theorem retryCount_mono (h : s.RetryShape) (hco : s.Coherent) {cfg : Config} {a : Action}
    {s' : Sys} (hm : Moves cfg s a s') {j : Nat} {n n' : Notification}
    (hn : s.store.rows j = some n) (hn' : s'.store.rows j = some n') :
    n.retryCount ≤ n'.retryCount := by
  rcases Sys.retryWrite_step hco hm hn' with ⟨h0, -⟩ | ⟨m, hm, -, hR | ⟨i, c, err, hp, rfl, -, hR⟩⟩
  · rw [hn] at h0; cases h0
  · rw [hn] at hm; cases hm; omega
  · obtain ⟨m', hm', hR'⟩ := h.fresh _ (List.getElem?_mem hp) c rfl
    rw [hn] at hm'; cases hm'; omega

end Sys.RetryShape

/-! ## Retry counts, backoff and sends over whole runs -/

theorem retry_count_bounded_and_backoff_respected {cfg : Config} :
    (∀ s, Reachable cfg s → ∀ j n, s.store.rows j = some n → n.retryCount ≤ n.maxRetries) ∧
    (∀ s, Reach cfg (fun s a => keepsPollerMarks s a = true) s →
      (∀ a s', step cfg s a = some s' → ∀ j n n', s.store.rows j = some n →
        s'.store.rows j = some n' → n.retryCount ≤ n'.retryCount) ∧
      (∀ j n, s.store.rows j = some n → n.status = .failed → n.retryCount < n.maxRetries →
        n.nextRetryAt.isSome) ∧
      (∀ j n, s.store.rows j = some n → s.sends j ≤ n.maxRetries + 1) ∧
      (∀ (i : Nat) (c n : Notification) (t : Int), s.procs[i]? = some (.worker (.send c)) →
        s.store.rows c.id = some n → n.nextRetryAt = some t → t ≤ s.now)) := by
  refine ⟨fun s hr => Sys.retries_bounded hr, fun s hr => ?_⟩
  have h := Sys.RetryShape.of_reach hr
  refine ⟨fun a s' hs j n n' hn hn' =>
      h.retryCount_mono (Sys.Coherent.of_reach hr) (step_moves hs) hn hn',
    h.armed, fun j n hn => ?_, fun i c n t hp hn ht => ?_⟩
  · have hb := h.budget j n hn
    have := Sys.retries_bounded hr.reachable j n hn
    omega
  · exact h.due c.id n t hn ht ((Proc.tokens_of_workerCopy (p := .worker (.send c)) rfl).trans
      (Sys.tokens_le_of_mem (List.getElem?_mem hp) _))

/-- A high-priority SMS whose first `Send` fails at `0`: worker 0 schedules the retry for `5`,
the retry poller enqueues it once the clock reads `5`, and worker 0 is about to send it again. -/
def retryRun : List Action :=
  [.create ⟨channelSMS, "+905551234567", "Hello", priorityHigh, none⟩ "", .step 17, .step 17,
    .step 17, .step 0, .step 0, .step 0, .step 0, .reply 0 (.error "timeout"), .step 0, .tick 5,
    .poll 15 [{ (Service.buildNotification
        ⟨channelSMS, "+905551234567", "Hello", priorityHigh, none⟩ "" none 0 0) with
      status := .failed, retryCount := 1, nextRetryAt := some 5, errorMessage := some "timeout" }],
    .step 15, .step 15, .step 0, .step 0, .step 0, .step 0]

theorem retry_sent_after_its_backoff :
    Reach Config.default (fun s a => keepsPollerMarks s a = true) (reached Config.default retryRun) ∧
      (reached Config.default retryRun).sendLog = [(0, 0)] ∧
      ((reached Config.default retryRun).procs[0]?.bind Proc.workerCopy).map (·.retryCount) =
        some 1 ∧
      ((reached Config.default retryRun).store.rows 0).bind (·.nextRetryAt) = some 5 ∧
      ∀ (i : Nat) (c n : Notification) (t : Int),
        (reached Config.default retryRun).procs[i]? = some (.worker (.send c)) →
        (reached Config.default retryRun).store.rows c.id = some n → n.nextRetryAt = some t →
        t ≤ (reached Config.default retryRun).now :=
  have hr : Reach Config.default (fun s a => keepsPollerMarks s a = true)
      (reached Config.default retryRun) :=
    Reach.keepsPollerMarks_of_exec (by decide) (exec_eq_reached (by decide))
  ⟨hr, by decide, by decide, by decide, (retry_count_bounded_and_backoff_respected.2 _ hr).2.2.2⟩

/-- A scheduled row polled five times, each `UpdateStatus(queued)` failing: five items of it
wait in the queue, and five workers send it. -/
def duplicateMarks : List Action :=
  [.create ⟨channelSMS, "+905551234567", "Hello", priorityHigh, some 0⟩ "", .step 17] ++
    (List.replicate 5 [.poll 16 [Service.buildNotification
      ⟨channelSMS, "+905551234567", "Hello", priorityHigh, some 0⟩ "" none 0 0],
      .step 16, .fail 16 "timeout"]).flatten ++
    ((List.range 5).map fun w => [.step w, .step w, .step w, .step w, .reply w (.ok "msg-1")]).flatten

theorem failed_marks_exceed_send_budget :
    ¬ ∀ s, Reachable Config.default s → ∀ j n, s.store.rows j = some n →
      s.sends j ≤ n.maxRetries + 1 :=
  fun h => absurd (h _ (Reachable.reached (by decide)) 0 _ (Option.some_get
    (by decide : ((reached Config.default duplicateMarks).store.rows 0).isSome)).symm) (by decide)

end NotificationDispatch
