import NotificationDispatch.Coherence

/-! # Batch counters

`CreateBatch` writes the batch row with `total = pending = len(notifications)` and the other
counters zero, in the transaction that inserts the children. After that the row changes only
when `UpdateBatchCounts` writes it, and only the worker starts that, after a `MarkSent` of a
child. `Cancel`, `MarkFailed` and `ScheduleRetry` of a child leave the counters as they were.

`UpdateBatchCounts` is one statement, but its four subqueries count the children in the
snapshot the statement starts with, and its write of the batch row can wait for a concurrent
write of that row to commit. So a recount writes the counts of the state it started in, and
one that started earlier can write last.

* `Store.Step` is what one step of the dispatcher does to the store, and `Moves.store_step`
  reads it off every step.
* `Sys.BatchesCounted` holds in every reachable state: `total` is the number of children, the
  four counters add up to it, and so do the counts of every recount under way.
* `batch_counters_track_children` adds that a batch row changes only at a recount's write, and
  what the recount's read counts and its write sets.
-/

namespace NotificationDispatch
set_option autoImplicit false

/-! ## What a step does to the store -/

namespace Store

/-- One step's change to the store: none, `Create`'s insert, `CreateBatch`'s transaction, an
`UPDATE` of one row that keeps its fixed columns, or the write of `UpdateBatchCounts`, whose
counts add up to the batch's children. -/
inductive Step (st : Store) : Store → Prop
  | same : Step st st
  | insert (n : Notification) (hid : n.id = st.nextId) (hb : n.batchId = none) :
      Step st (st.insert n)
  | createBatch (reqs : List CreateNotificationRequest) (now : Int) :
      Step st (st.createBatch (Service.newBatch st.nextBatchId reqs.length now)
        (Service.batchChildren reqs st.nextBatchId st.nextId now))
  | update (id : Nat) (f : Notification → Notification) (now : Int)
      (hf : ∀ n, (f n).fixed = n.fixed) : Step st (st.update id f now)
  | write (b : Nat) (c : BatchCounts) (now : Int)
      (hc : c.pending + c.sent + c.failed + c.cancelled = (st.children b).length) :
      Step st (st.writeBatchCounts b c now)

end Store

/-- The store change of every step; a recount's write needs its counts to add up to the
children, which `Sys.BatchesCounted` provides. -/
theorem Moves.store_step {cfg : Config} {s s' : Sys} {a : Action} (hm : Moves cfg s a s')
    (hw : ∀ (i b : Nat) (c : BatchCounts) (t : Int), s.procs[i]? = some (.batchWrite b c t) →
      c.pending + c.sent + c.failed + c.cancelled = (s.store.children b).length) :
    Store.Step s.store s'.store := by
  cases hm with
  | tick | create | createBatch | cancel | shutdown | restart | lookupHit | lookupMiss
    | insertConflict | batchFail | cancelFetch | cancelFail | offerOk | offerRefused | markFail
    | dequeueHigh | dequeueEmpty | receive | workerStop | fetchClaim | fetchSkip | fetchMissing
    | limitPanic | limitBurst | limitCancelled | limitGranted | sendOk | sendError | settlePanic
    | workerFail | batchCounts | batchCountsFail | poll | pollFail | pollerStop => exact .same
  | createFail i req key ph => cases ph <;> exact .same
  | insertOk i req key st hp hk =>
    obtain ⟨rfl, -⟩ := Store.create_ok hk
    exact .insert _ rfl rfl
  | batchInsert i reqs hp => exact .createBatch reqs s.now
  | cancelWrite | markOk | claim => exact .update _ _ _ fun _ => by rfl
  | markSent i n msgId hp hc => split <;> exact .update _ _ _ fun _ => by rfl
  | settle i n err st hp hc hf =>
    rcases Worker.handleFailure_some hf with ⟨-, rfl⟩ | ⟨-, d, -, rfl⟩ <;>
      exact .update _ _ _ fun _ => by rfl
  | batchWrite i b c t hp => exact .write b c t (hw i b c t hp)

/-! ## The rows, step by step -/

namespace Store

theorem allRows_insert (st : Store) {n : Notification} (hn : n.id = st.nextId) :
    (st.insert n).allRows = st.allRows ++ [n] := by
  simp only [allRows, insert_nextId, List.range_succ, List.filterMap_append]
  congr 1
  · refine List.filterMap_congr fun j hj => ?_
    rw [insert_rows, if_neg (by rw [List.mem_range] at hj; omega)]
  · simp [hn]

theorem allRows_update {st : Store} (hv : st.Valid) (id : Nat) (f : Notification → Notification)
    (now : Int) : (st.update id f now).allRows =
      st.allRows.map fun n => if n.id = id then { f n with updatedAt := now } else n := by
  simp only [allRows, update_nextId, List.map_filterMap]
  refine List.filterMap_congr fun j _ => ?_
  rw [update_rows]
  cases hj : st.rows j with
  | none => split <;> simp_all
  | some n =>
    have := hv.ids j n hj
    split <;> simp_all

theorem foldl_insert_allRows {ns : List Notification} {st : Store}
    (hns : ∀ k (hk : k < ns.length), ns[k].id = st.nextId + k) :
    (ns.foldl insert st).allRows = st.allRows ++ ns := by
  induction ns generalizing st with
  | nil => simp
  | cons n ns ih =>
    have hn : n.id = st.nextId := by simpa using hns 0 (by simp)
    rw [List.foldl_cons, ih fun k hk => ?_, allRows_insert _ hn]
    · simp
    · have := hns (k + 1) (by simp; omega)
      simp only [List.getElem_cons_succ] at this
      simp only [insert_nextId]; omega

theorem allRows_createBatch (st : Store) (b : Batch) {ns : List Notification}
    (hns : ∀ k (hk : k < ns.length), ns[k].id = st.nextId + k) :
    (st.createBatch b ns).allRows = st.allRows ++ ns :=
  foldl_insert_allRows hns

end Store

/-! ## Counting children -/

/-- The four sets `UpdateBatchCounts` counts split every list of rows by status. -/
theorem countP_status_split (l : List Notification) :
    l.countP (·.status ∈ [.pending, .queued, .processing, .scheduled]) +
      l.countP (·.status ∈ [.sent]) + l.countP (·.status ∈ [.failed]) +
      l.countP (·.status ∈ [.cancelled]) = l.length := by
  induction l with
  | nil => rfl
  | cons n l ih =>
    have hx : ∀ x : Status, (if decide (x ∈ [.pending, .queued, .processing, .scheduled]) = true
        then 1 else 0) + (if decide (x ∈ [.sent]) = true then 1 else 0) +
        (if decide (x ∈ [.failed]) = true then 1 else 0) +
        (if decide (x ∈ [.cancelled]) = true then 1 else 0) = 1 := by
      intro x; cases x <;> rfl
    have := hx n.status
    simp only [List.countP_cons, List.length_cons]
    omega

namespace Store

theorem children_insert (st : Store) {n : Notification} (hn : n.id = st.nextId)
    (hb : n.batchId = none) (b : Nat) : (st.insert n).children b = st.children b := by
  simp [children, allRows_insert st hn, hb]

theorem children_update_length {st : Store} (hv : st.Valid) (id : Nat)
    (f : Notification → Notification) (now : Int) (hf : ∀ n, (f n).fixed = n.fixed) (b : Nat) :
    ((st.update id f now).children b).length = (st.children b).length := by
  have hb : ∀ n, (f n).batchId = n.batchId := fun n => congrArg (fun x => x.2.1) (hf n)
  simp only [children, allRows_update hv, List.filter_map, List.length_map]
  congr 2
  funext n
  simp only [Function.comp]
  split <;> simp [hb]

/-- What a batch row says of its children: `total` counts them, and the counters add up to
it. -/
def BatchCounted (st : Store) (b : Nat) (bt : Batch) : Prop :=
  bt.total = (st.children b).length ∧ bt.pending + bt.sent + bt.failed + bt.cancelled = bt.total

/-- Every batch row counts its children; batch ids at or past `nextBatchId` are unused. -/
structure BatchesCounted (st : Store) : Prop where
  rowsBatch : ∀ n ∈ st.allRows, ∀ b, n.batchId = some b → b < st.nextBatchId
  fresh : ∀ b, st.nextBatchId ≤ b → st.batches b = none
  counted : ∀ b bt, st.batches b = some bt → st.BatchCounted b bt

theorem BatchesCounted.empty : Store.empty.BatchesCounted :=
  ⟨fun _ h => (nomatch h), fun _ _ => rfl, fun _ _ h => (nomatch h)⟩

theorem BatchesCounted.insert {st : Store} (h : st.BatchesCounted) {n : Notification}
    (hn : n.id = st.nextId) (hb : n.batchId = none) : (st.insert n).BatchesCounted := by
  refine ⟨fun m hm b hmb => ?_, h.fresh, fun b bt hbt => ?_⟩
  · rw [allRows_insert st hn, List.mem_append, List.mem_singleton] at hm
    rcases hm with hm | rfl
    · exact h.rowsBatch m hm b hmb
    · rw [hb] at hmb; cases hmb
  · have := h.counted b bt hbt
    rwa [BatchCounted, children_insert st hn hb]

theorem BatchesCounted.update {st : Store} (h : st.BatchesCounted) (hv : st.Valid) (id : Nat)
    (f : Notification → Notification) (now : Int) (hf : ∀ n, (f n).fixed = n.fixed) :
    (st.update id f now).BatchesCounted := by
  refine ⟨fun m hm b hmb => ?_, h.fresh, fun b bt hbt => ?_⟩
  · rw [allRows_update hv, List.mem_map] at hm
    obtain ⟨n, hn, rfl⟩ := hm
    have hb : (f n).batchId = n.batchId := congrArg (fun x => x.2.1) (hf n)
    refine h.rowsBatch n hn b ?_
    split at hmb <;> simp_all
  · have := h.counted b bt hbt
    rwa [BatchCounted, children_update_length hv id f now hf]

/-- `CreateBatch` adds children to its new batch only. -/
theorem children_createBatch_of_ne (st : Store) (reqs : List CreateNotificationRequest) (now : Int)
    {b : Nat} (hb : b ≠ st.nextBatchId) :
    (st.createBatch (Service.newBatch st.nextBatchId reqs.length now)
      (Service.batchChildren reqs st.nextBatchId st.nextId now)).children b = st.children b := by
  have hnew : (Service.batchChildren reqs st.nextBatchId st.nextId now).filter
      (·.batchId = some b) = [] := List.filter_eq_nil_iff.mpr fun m hm => by
    obtain ⟨k, hk, rfl⟩ := List.mem_mapIdx.mp hm
    simp [Service.buildNotification, Ne.symm hb]
  unfold children
  rw [allRows_createBatch _ _ (Service.batchChildren_id reqs _ _ now), List.filter_append, hnew,
    List.append_nil]

/-- A write whose counts add up to the children keeps the batch row counted. -/
theorem BatchesCounted.write {st : Store} (h : st.BatchesCounted) {b : Nat} {c : BatchCounts}
    (now : Int) (hc : c.pending + c.sent + c.failed + c.cancelled = (st.children b).length) :
    (st.writeBatchCounts b c now).BatchesCounted := by
  refine ⟨h.rowsBatch, fun b' hb' => ?_, fun b' bt hbt => ?_⟩
  · simp only [writeBatchCounts]
    split
    · subst b'; rw [h.fresh b hb']; rfl
    · exact h.fresh b' hb'
  · simp only [writeBatchCounts] at hbt
    split at hbt
    · subst b'
      obtain ⟨bt₀, hbt₀, rfl⟩ := Option.map_eq_some'.mp hbt
      have htotal := (h.counted b bt₀ hbt₀).1
      exact ⟨htotal, by simp only [writeBatchCounts_rows] at *; omega⟩
    · exact h.counted b' bt hbt

theorem BatchesCounted.createBatch {st : Store} (h : st.BatchesCounted) (reqs : List CreateNotificationRequest)
    (now : Int) :
    (st.createBatch (Service.newBatch st.nextBatchId reqs.length now)
      (Service.batchChildren reqs st.nextBatchId st.nextId now)).BatchesCounted := by
  have hrows := allRows_createBatch st (Service.newBatch st.nextBatchId reqs.length now)
    (Service.batchChildren_id reqs st.nextBatchId st.nextId now)
  have hbatches : (st.createBatch (Service.newBatch st.nextBatchId reqs.length now)
      (Service.batchChildren reqs st.nextBatchId st.nextId now)).batches =
      Function.update st.batches st.nextBatchId
        (some (Service.newBatch st.nextBatchId reqs.length now)) :=
    createBatch_batches _ _ _
  have hlen : (Service.batchChildren reqs st.nextBatchId st.nextId now).length = reqs.length := by
    simp [Service.batchChildren]
  have hnb : ∀ m ∈ Service.batchChildren reqs st.nextBatchId st.nextId now,
      m.batchId = some st.nextBatchId := by
    intro m hm
    obtain ⟨k, hk, rfl⟩ := List.mem_mapIdx.mp hm
    rfl
  refine ⟨fun m hm b hmb => ?_, fun b hb => ?_, fun b bt hbt => ?_⟩
  · rw [hrows, List.mem_append] at hm
    rw [createBatch_nextBatchId]
    rcases hm with hm | hm
    · have := h.rowsBatch m hm b hmb; omega
    · rw [hnb m hm] at hmb; cases hmb; omega
  · rw [createBatch_nextBatchId] at hb
    rw [hbatches, Function.update_noteq (by omega)]
    exact h.fresh b (by omega)
  · rw [hbatches] at hbt
    by_cases hb : b = st.nextBatchId
    · subst hb
      rw [Function.update_same] at hbt
      cases hbt
      have hold : st.allRows.filter (·.batchId = some st.nextBatchId) = [] := by
        rw [List.filter_eq_nil_iff]
        intro m hm hmb
        have := h.rowsBatch m hm st.nextBatchId (by simpa using hmb)
        omega
      have hnew : (Service.batchChildren reqs st.nextBatchId st.nextId now).filter
          (·.batchId = some st.nextBatchId) = Service.batchChildren reqs st.nextBatchId st.nextId now :=
        List.filter_eq_self.mpr fun m hm => by simp [hnb m hm]
      unfold BatchCounted children
      rw [hrows, List.filter_append, hold, hnew, List.nil_append, hlen]
      simp [Service.newBatch]
    · rw [Function.update_noteq hb] at hbt
      rw [BatchCounted, children_createBatch_of_ne st reqs now hb]
      exact h.counted b bt hbt

theorem BatchesCounted.step {st st' : Store} (h : st.BatchesCounted) (hv : st.Valid)
    (hs : Step st st') : st'.BatchesCounted := by
  cases hs with
  | same => exact h
  | insert n hid hb => exact h.insert hid hb
  | createBatch reqs now => exact h.createBatch reqs now
  | update id f now hf => exact h.update hv id f now hf
  | write b c now hc => exact h.write now hc

/-- A step of the store only adds batches, and keeps the number of children of every batch
it had. -/
theorem Step.children_length {st st' : Store} (hv : st.Valid)
    (hs : Step st st') {b : Nat} (hb : b < st.nextBatchId) :
    b < st'.nextBatchId ∧ (st'.children b).length = (st.children b).length := by
  cases hs with
  | same | write => exact ⟨hb, rfl⟩
  | insert n hid hnb => exact ⟨hb, by rw [children_insert st hid hnb]⟩
  | createBatch reqs now =>
    exact ⟨by simp only [createBatch_nextBatchId]; omega,
      by rw [children_createBatch_of_ne st reqs now (by omega)]⟩
  | update id f now hf => exact ⟨hb, children_update_length hv id f now hf b⟩

end Store

/-! ## Recounts under way -/

/-- A recount under way is of a batch `CreateBatch` has made, and the counts its subqueries
read add up to that batch's children. -/
def Proc.RecountIn (st : Store) : Proc → Prop
  | .batchCounts b => b < st.nextBatchId
  | .batchWrite b c _ =>
    b < st.nextBatchId ∧ c.pending + c.sent + c.failed + c.cancelled = (st.children b).length
  | _ => True

theorem Proc.RecountIn.of_step {st st' : Store} (hv : st.Valid)
    (hs : Store.Step st st') {p : Proc} (hp : p.RecountIn st) : p.RecountIn st' := by
  cases p with
  | batchCounts b => exact (hs.children_length hv hp).1
  | batchWrite b c t =>
    obtain ⟨hb, hlen⟩ := hs.children_length hv hp.1
    exact ⟨hb, hp.2.trans hlen.symm⟩
  | create | createBatch | cancel | enqueue | worker | poller | returned => trivial

theorem Owner.next_recountIn (o : Owner) (n : Notification) (rest : List Notification)
    (st : Store) : (o.next n rest).RecountIn st := by
  cases rest with
  | nil => cases o <;> trivial
  | cons => trivial

theorem initProcs_recountIn (cfg : Config) (st : Store) : ∀ p ∈ initProcs cfg, p.RecountIn st := by
  intro p hp
  rcases List.mem_append.mp hp with hp | hp
  · rw [List.eq_of_mem_replicate hp]; trivial
  · simp only [List.mem_cons, List.mem_singleton, List.not_mem_nil, or_false] at hp
    rcases hp with rfl | rfl <;> trivial

/-- The batch rows count their children, and so does every recount under way. -/
structure Sys.BatchesCounted (s : Sys) : Prop where
  store : s.store.BatchesCounted
  recounts : ∀ p ∈ s.procs, p.RecountIn s.store

namespace Sys.BatchesCounted

variable {s : Sys}

theorem write_counts (h : s.BatchesCounted) {i b : Nat} {c : BatchCounts} {t : Int}
    (hp : s.procs[i]? = some (.batchWrite b c t)) :
    c.pending + c.sent + c.failed + c.cancelled = (s.store.children b).length :=
  (h.recounts _ (List.getElem?_mem hp)).2

theorem set (h : s.BatchesCounted) (hv : s.store.Valid) {s' : Sys} (hs : Store.Step s.store s'.store)
    {i : Nat} {q : Proc} (hprocs : s'.procs = s.procs.set i q) (hq : q.RecountIn s'.store) :
    s'.BatchesCounted :=
  ⟨h.store.step hv hs, fun p hp => by
    rw [hprocs] at hp
    exact (List.mem_or_eq_of_mem_set hp).elim (fun hp => (h.recounts p hp).of_step hv hs)
      (· ▸ hq)⟩

theorem spawn (h : s.BatchesCounted) {q : Proc} (hq : q.RecountIn s.store) :
    (s.spawn q).BatchesCounted :=
  ⟨h.store, fun p hp => (List.mem_append.mp hp).elim (h.recounts p)
    fun hp => (List.mem_singleton.mp hp) ▸ hq⟩

theorem init (cfg : Config) : (Sys.init cfg).BatchesCounted :=
  ⟨Store.BatchesCounted.empty, initProcs_recountIn cfg _⟩

/-- Every step keeps the batches counted. The read of a recount counts every child once
(`countP_status_split`); the batch a `MarkSent` recounts is its row's. -/
theorem step (h : s.BatchesCounted) (hc : s.Coherent) {cfg : Config} {a : Action} {s' : Sys}
    (hm : Moves cfg s a s') : s'.BatchesCounted := by
  have hs := hm.store_step fun _ _ _ _ hp => h.write_counts hp
  have hv := hc.store
  cases hm with
  | tick | shutdown => exact ⟨h.store, h.recounts⟩
  | restart => exact ⟨h.store, initProcs_recountIn cfg _⟩
  | create req key => exact h.spawn (by unfold Service.startCreate; split <;> trivial)
  | createBatch reqs =>
    refine h.spawn ?_
    unfold Service.startCreateBatch
    repeat' split
    all_goals trivial
  | cancel => exact h.spawn trivial
  | createFail i req key ph => cases ph <;> exact h.set hv hs rfl trivial
  | lookupHit | lookupMiss | insertConflict | batchFail | cancelWrite | cancelFail | offerOk
    | dequeueHigh | dequeueEmpty | receive | workerStop | fetchClaim | fetchSkip | fetchMissing
    | claim | limitPanic | limitBurst | limitCancelled | limitGranted | sendOk | sendError | settle
    | settlePanic | workerFail | batchWrite | batchCountsFail | pollFail | pollerStop =>
    exact h.set hv hs rfl trivial
  | insertOk i req key st hp hk => exact h.set hv hs rfl (by split <;> trivial)
  | batchInsert i reqs hp => exact h.set hv hs rfl (by split <;> trivial)
  | cancelFetch i id hp => exact h.set hv hs rfl (by split <;> (try split) <;> trivial)
  | offerRefused i o n rest e hp | markOk i o n rest hp | markFail i o n rest msg hp =>
    exact h.set hv hs rfl (Owner.next_recountIn o _ rest _)
  | poll i k found hp hcan hf => exact h.set hv hs rfl (by cases found <;> trivial)
  | markSent i n msgId hp hcan =>
    have h' : ((s.withStore (s.store.markSent n.id msgId s.now s.now)).setProc i
        (.worker .dequeue)).BatchesCounted := h.set hv (by split at hs <;> exact hs) rfl trivial
    split
    · rename_i b hb
      obtain ⟨m, hm, hfix⟩ := hc.copy hp (List.mem_singleton_self n)
      have hmb : m.batchId = some b := (congrArg (fun x => x.2.1) hfix).trans hb
      exact h'.spawn (h.store.rowsBatch m (Store.mem_allRows.mpr
        ⟨n.id, hv.lt_nextId hm, hm⟩) b hmb)
    · exact h'
  | batchCounts i b hp =>
    exact h.set hv hs rfl ⟨h.recounts _ (List.getElem?_mem hp), countP_status_split _⟩

theorem of_reachable {cfg : Config} (hr : Reachable cfg s) : s.BatchesCounted := by
  induction hr with
  | init => exact Sys.BatchesCounted.init cfg
  | step hr _ hs ih => exact ih.step (Sys.Coherent.of_reach hr) (step_moves hs)

end Sys.BatchesCounted

theorem Sys.batchesCounted_of_reachable {cfg : Config} {s : Sys} (hr : Reachable cfg s) :
    s.store.BatchesCounted :=
  (Sys.BatchesCounted.of_reachable hr).store

/-- A batch row changes in a step only where `CreateBatch` creates it or the write of a recount
of that batch lands. -/
theorem Moves.batches_changed {cfg : Config} {s s' : Sys} {a : Action} (hm : Moves cfg s a s')
    {b : Nat} (hne : s'.store.batches b ≠ s.store.batches b) :
    b = s.store.nextBatchId ∨ ∃ i c t, a = .step i ∧ s.procs[i]? = some (.batchWrite b c t) := by
  cases hm with
  | tick | create | createBatch | cancel | shutdown | restart | lookupHit | lookupMiss
    | insertConflict | batchFail | cancelFetch | cancelFail | offerOk | offerRefused | markFail
    | dequeueHigh | dequeueEmpty | receive | workerStop | fetchClaim | fetchSkip | fetchMissing
    | limitPanic | limitBurst | limitCancelled | limitGranted | sendOk | sendError | settlePanic
    | workerFail | batchCounts | batchCountsFail | poll | pollFail | pollerStop | cancelWrite
    | markOk | claim =>
    exact absurd rfl hne
  | createFail i req key ph => cases ph <;> exact absurd rfl hne
  | insertOk i req key st hp hk =>
    obtain ⟨rfl, -⟩ := Store.create_ok hk
    exact absurd rfl hne
  | markSent i n msgId hp hc => exact absurd (by split <;> rfl) hne
  | settle i n err st hp hc hf =>
    rcases Worker.handleFailure_some hf with ⟨-, rfl⟩ | ⟨-, d, -, rfl⟩ <;> exact absurd rfl hne
  | batchInsert i reqs hp =>
    left
    by_contra hb
    exact hne (by simp only [Service.createBatchStep, Sys.setProc_store, Sys.withStore_store,
      Store.createBatch_batches]; exact Function.update_noteq hb _ _)
  | batchWrite i b' c t hp =>
    right
    by_cases hb : b = b'
    · exact ⟨i, c, t, rfl, hb ▸ hp⟩
    · exact absurd (by simp [Store.writeBatchCounts, hb]) hne

/-- Over every run: each batch's `total` is its number of children and its four counters add up
to `total`; a batch row changes only where the write of a recount of that batch lands (`Cancel`,
`MarkFailed` and `ScheduleRetry` of a child start no recount); a recount's read counts, in the
state it runs in, the children that are `pending`, `queued`, `processing` or `scheduled`, those
`sent`, those `failed` (retries left or not) and those `cancelled`; and its write, however
much later, sets the four counters to exactly those counts. -/
theorem batch_counters_track_children {cfg : Config} {s : Sys} (hr : Reachable cfg s) :
    (∀ b bt, s.store.batches b = some bt →
      bt.total = (s.store.children b).length ∧
        bt.pending + bt.sent + bt.failed + bt.cancelled = bt.total) ∧
    (∀ a s' b bt, step cfg s a = some s' → s.store.batches b = some bt →
      (¬ ∃ i c t, a = .step i ∧ s.procs[i]? = some (.batchWrite b c t)) →
        s'.store.batches b = some bt) ∧
    (∀ i b s', s.procs[i]? = some (.batchCounts b) → step cfg s (.step i) = some s' →
      s'.procs[i]? = some (.batchWrite b ⟨s.store.countIn b [.pending, .queued, .processing, .scheduled],
        s.store.countIn b [.sent], s.store.countIn b [.failed], s.store.countIn b [.cancelled]⟩
        s.now)) ∧
    (∀ i b c t s' bt, s.procs[i]? = some (.batchWrite b c t) → step cfg s (.step i) = some s' →
      s'.store.batches b = some bt →
      bt.pending = c.pending ∧ bt.sent = c.sent ∧ bt.failed = c.failed ∧
        bt.cancelled = c.cancelled ∧ bt.updatedAt = t) := by
  have h := Sys.batchesCounted_of_reachable hr
  refine ⟨h.counted, fun a s' b bt hs hbt hrec => ?_, fun i b s' hp hs => ?_,
    fun i b c t s' bt hp hs hbt => ?_⟩
  · by_contra hne
    rcases (step_moves hs).batches_changed (b := b) (by rw [hbt]; exact hne) with rfl | hi
    · rw [h.fresh _ (Nat.le_refl _)] at hbt; cases hbt
    · exact hrec hi
  · simp only [step, hp, Option.some_bind, Proc.step, Option.some.injEq] at hs
    subst hs
    simp only [Worker.batchCountsRead, Sys.setProc_procs, List.getElem?_set_self
      (List.getElem?_eq_some_iff.mp hp).1]
    rfl
  · simp only [step, hp, Option.some_bind, Proc.step, Option.some.injEq] at hs
    subst hs
    simp only [Worker.batchCountsWrite, Sys.setProc_store, Sys.withStore_store,
      Store.writeBatchCounts, if_pos rfl] at hbt
    obtain ⟨bt₀, -, rfl⟩ := Option.map_eq_some'.mp hbt
    exact ⟨rfl, rfl, rfl, rfl, rfl⟩

/-- A batch of two children, both enqueued; a worker sends the first, and its
`UpdateBatchCounts` reads the counts. -/
def batchRead : List Action :=
  [.createBatch [⟨channelSMS, "+905551234567", "Hello", priorityNormal, none⟩,
      ⟨channelSMS, "+905551234568", "Hello", priorityNormal, none⟩],
    .step 17, .step 17, .step 17, .step 17, .step 17, .step 0, .receive 0 .normal, .step 0,
    .step 0, .step 0, .reply 0 (.ok "msg-1"), .step 0, .step 18]

/-- `batchRead`, then the recount's write. -/
def batchSent : List Action := batchRead ++ [.step 18]

/-- The recount reads one child not yet settled and one sent, and writes exactly that. -/
theorem batch_recounted_after_send :
    Reachable Config.default (reached Config.default batchRead) ∧
      (reached Config.default batchRead).procs[18]? = some (.batchWrite 0 ⟨1, 1, 0, 0⟩ 0) ∧
      step Config.default (reached Config.default batchRead) (.step 18) =
        some (reached Config.default batchSent) ∧
      (reached Config.default batchSent).store.batches 0 = some ⟨0, 2, 1, 1, 0, 0, 0, 0⟩ ∧
      ∀ bt, (reached Config.default batchSent).store.batches 0 = some bt →
        bt.pending = 1 ∧ bt.sent = 1 ∧ bt.failed = 0 ∧ bt.cancelled = 0 ∧ bt.updatedAt = 0 :=
  have hr : Reachable Config.default (reached Config.default batchRead) :=
    Reachable.reached (by decide)
  have hp : (reached Config.default batchRead).procs[18]? = some (.batchWrite 0 ⟨1, 1, 0, 0⟩ 0) :=
    by decide
  have hs : step Config.default (reached Config.default batchRead) (.step 18) =
      some (reached Config.default batchSent) := step_reached (by decide) (by decide)
  have hb : (reached Config.default batchSent).store.batches 0 = some ⟨0, 2, 1, 1, 0, 0, 0, 0⟩ :=
    by decide
  ⟨hr, hp, hs, hb, fun bt => (batch_counters_track_children hr).2.2.2 18 0 _ _ _ bt hp hs⟩

/-- A batch of one child, enqueued, then cancelled by `Cancel`. -/
def batchCancelled : List Action :=
  [.createBatch [⟨channelSMS, "+905551234567", "Hello", priorityNormal, none⟩], .step 17, .step 17,
    .step 17, .cancel 0, .step 18, .step 18]

/-- The batch a goroutine is recounting, if it is the `UpdateBatchCounts` goroutine. -/
def Proc.recounting : Proc → Option Nat
  | .batchCounts b | .batchWrite b _ _ => some b
  | _ => none

/-- With no recount outstanding, a batch whose only child `Cancel` cancelled still counts it
`pending` and none `cancelled`. -/
theorem cancelled_child_left_pending :
    ¬ ∀ s, Reachable Config.default s → (∀ p ∈ s.procs, p.recounting = none) →
      ∀ b bt, s.store.batches b = some bt → bt.cancelled = s.store.countIn b [.cancelled] := by
  intro h
  have hr : Reachable Config.default (reached Config.default batchCancelled) :=
    Reachable.reached (by decide)
  exact absurd (h _ hr (by decide) 0 ⟨0, 1, 1, 0, 0, 0, 0, 0⟩ (by decide)) (by decide)

end NotificationDispatch
