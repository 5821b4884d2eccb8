import NotificationDispatch.Coherence

/-! # Scheduled rows wait for their time

A request with `scheduled_at = t` becomes a `scheduled` row and is not enqueued by `Create` or
`CreateBatch`; only `SchedulerWorker.poll` enqueues it, once `t ≤ now`. Nothing else can reach it
early: the retry poller takes only `failed` rows, and a row can only fail after a worker held it.
`Sys.OnSchedule` says so for every reachable state:

* a row whose time has not come is `scheduled` or `cancelled` (`Store.Waiting`);
* every copy a dispatching goroutine holds, every item a worker holds, and every queued item is
  of a row whose time has come (`Store.ReleasedBy`);
* every `Send` of a row came at or after its time.
-/

namespace NotificationDispatch
set_option autoImplicit false

namespace Store

/-- The row at `j`, if it has a `scheduled_at`, has it no later than `now`. -/
def ReleasedBy (st : Store) (now : Int) (j : Nat) : Prop :=
  ∀ n t, st.rows j = some n → n.scheduledAt = some t → t ≤ now

/-- Every row whose `scheduled_at` is still ahead of `now` is `scheduled` or `cancelled`. -/
def Waiting (st : Store) (now : Int) : Prop :=
  ∀ j n t, st.rows j = some n → n.scheduledAt = some t → now < t →
    n.status = .scheduled ∨ n.status = .cancelled

/-- The rows `st` has below its `nextId` are in `st'` with the same fixed columns, and nowhere
else. -/
def Extends (st st' : Store) : Prop :=
  ∀ j n', st'.rows j = some n' → j < st.nextId → ∃ n, st.rows j = some n ∧ n.fixed = n'.fixed

theorem ReleasedBy.mono {st : Store} {now now' : Int} {j : Nat} (h : st.ReleasedBy now j)
    (hle : now ≤ now') : st.ReleasedBy now' j :=
  fun n t hn ht => by have := h n t hn ht; omega

theorem ReleasedBy.extend {st st' : Store} (hx : st.Extends st') {now : Int} {j : Nat}
    (hj : j < st.nextId) (h : st.ReleasedBy now j) : st'.ReleasedBy now j := by
  intro n' t hn' ht
  obtain ⟨n, hn, hf⟩ := hx j n' hn' hj
  exact h n t hn (by rw [← ht]; exact congrArg (fun x => x.2.2.2.2.2.2) hf)

/-- A copy with the fixed columns of the row releases the row as it releases itself. -/
theorem HasCopy.releasedBy {st : Store} {n : Notification} (hc : st.HasCopy n) {now : Int}
    (h : ∀ t, n.scheduledAt = some t → t ≤ now) : st.ReleasedBy now n.id := by
  obtain ⟨m, hm, hf⟩ := hc
  intro m' t hm' ht
  rw [hm] at hm'; cases hm'
  exact h t (by rw [← ht]; exact congrArg (fun x => x.2.2.2.2.2.2) hf.symm)

theorem Waiting.mono {st : Store} {now now' : Int} (hw : st.Waiting now) (hle : now ≤ now') :
    st.Waiting now' :=
  fun j n t hn ht hlt => hw j n t hn ht (by omega)

theorem extends_update (st : Store) (id : Nat) (f : Notification → Notification) (now : Int)
    (hf : ∀ n, (f n).fixed = n.fixed) : st.Extends (st.update id f now) := by
  intro j n' hn' _
  obtain ⟨n, hn, ⟨-, rfl⟩ | rfl⟩ := update_rows_some hn'
  exacts [⟨n, hn, (hf n).symm⟩, ⟨n', hn, rfl⟩]

theorem extends_insert (st : Store) {n : Notification} (hn : n.id = st.nextId) :
    st.Extends (st.insert n) := by
  intro j m hm hj
  rcases insert_rows_some hm with ⟨rfl, -⟩ | hm
  · omega
  · exact ⟨m, hm, rfl⟩

theorem extends_createBatch (st : Store) (b : Batch) {ns : List Notification}
    (hns : ∀ m ∈ ns, st.nextId ≤ m.id) : st.Extends (st.createBatch b ns) := by
  intro j m hm hj
  rw [createBatch_rows_of_lt b hns hj] at hm
  exact ⟨m, hm, rfl⟩

/-- An update keeps rows waiting when it writes a row whose time has come, or cancels it. -/
theorem Waiting.update {st : Store} {now : Int} (hw : st.Waiting now) {id : Nat}
    {f : Notification → Notification} (now' : Int) (hf : ∀ n, (f n).scheduledAt = n.scheduledAt)
    (hid : st.ReleasedBy now id ∨ ∀ n, (f n).status = .cancelled) : (st.update id f now').Waiting now := by
  intro j n' t hn' ht hlt
  obtain ⟨n, hn, ⟨rfl, rfl⟩ | rfl⟩ := update_rows_some hn'
  · rw [hf] at ht
    rcases hid with hid | hid
    · have := hid n t hn ht; omega
    · exact .inr (hid n)
  · exact hw j n' t hn ht hlt

theorem Waiting.insert {st : Store} {now : Int} (hw : st.Waiting now) {n : Notification}
    (hn : ∀ t, n.scheduledAt = some t → n.status = .scheduled) : (st.insert n).Waiting now := by
  intro j m t hm ht hlt
  rcases insert_rows_some hm with ⟨-, rfl⟩ | hm
  · exact .inl (hn t ht)
  · exact hw j m t hm ht hlt

theorem Waiting.createBatch {st : Store} {now : Int} (hw : st.Waiting now) (b : Batch)
    {ns : List Notification} (hns : ∀ m ∈ ns, ∀ t, m.scheduledAt = some t → m.status = .scheduled) :
    (st.createBatch b ns).Waiting now := by
  intro j m t hm ht hlt
  rcases createBatch_rows_some hm with hm' | hm'
  · exact .inl (hns m hm' t ht)
  · exact hw j m t hm' ht hlt

end Store

theorem Service.buildNotification_scheduled {req : CreateNotificationRequest} {key : String}
    {b : Option Nat} {id : Nat} {now t : Int}
    (h : (buildNotification req key b id now).scheduledAt = some t) :
    (buildNotification req key b id now).status = .scheduled := by
  simp only [buildNotification] at h ⊢
  simp [h]

theorem Worker.extends_handleFailure {backoff : List Int} {st st' : Store} {n : Notification}
    {err : String} {now : Int} (hf : handleFailure backoff st n err now = some st') :
    st.Extends st' := by
  rcases handleFailure_some hf with ⟨-, rfl⟩ | ⟨-, d, -, rfl⟩ <;>
    exact Store.extends_update _ _ _ _ fun _ => rfl

theorem Worker.waiting_handleFailure {backoff : List Int} {st st' : Store} {n : Notification}
    {err : String} {now : Int} (hf : handleFailure backoff st n err now = some st') {now' : Int}
    (hw : st.Waiting now') (hn : st.ReleasedBy now' n.id) : st'.Waiting now' := by
  rcases handleFailure_some hf with ⟨-, rfl⟩ | ⟨-, d, -, rfl⟩ <;>
    exact hw.update _ (fun _ => rfl) (.inl hn)

/-! ## What goroutines hold -/

/-- The copies a goroutine holds to dispatch them: all but `Cancel`'s. -/
def Proc.dispatchCopies : Proc → List Notification
  | .cancel _ _ => []
  | p => p.copies

/-- Goroutine `p` holds only rows whose time has come by `now`. -/
def Proc.Timely (st : Store) (now : Int) (p : Proc) : Prop :=
  (∀ m ∈ p.dispatchCopies, ∀ t, m.scheduledAt = some t → t ≤ now) ∧
    ∀ it, p.item? = some it → st.ReleasedBy now it.notificationId

theorem Proc.timely_of_nil {st : Store} {now : Int} {p : Proc} (hc : p.dispatchCopies = [])
    (hi : p.item? = none) : p.Timely st now :=
  ⟨fun m hm => (by rw [hc] at hm; cases hm), fun it h => (by rw [hi] at h; cases h)⟩

theorem Owner.next_dispatchCopies (o : Owner) (n : Notification) (rest : List Notification) :
    ∀ m ∈ (o.next n rest).dispatchCopies, m ∈ rest := by
  cases rest with
  | nil => cases o <;> simp [Owner.next, Owner.finish, Proc.dispatchCopies, Proc.copies]
  | cons r rest => simp [Owner.next, Proc.dispatchCopies, Proc.copies]

/-- The invariant: nothing of a row is dispatched before its time. -/
structure Sys.OnSchedule (s : Sys) : Prop where
  waiting : s.store.Waiting s.now
  procs : ∀ p ∈ s.procs, p.Timely s.store s.now
  queued : ∀ u, ∀ it ∈ s.queue.buffer u, s.store.ReleasedBy s.now it.notificationId
  sends : ∀ e ∈ s.sendLog, s.store.ReleasedBy e.2 e.1

namespace Sys.OnSchedule

variable {s : Sys}

theorem proc (h : s.OnSchedule) {i : Nat} {p : Proc} (hp : s.procs[i]? = some p) :
    p.Timely s.store s.now :=
  h.procs p (List.getElem?_mem hp)

/-- A copy a dispatching goroutine holds releases its row. -/
theorem copy (h : s.OnSchedule) (hc : s.Coherent) {i : Nat} {p : Proc}
    (hp : s.procs[i]? = some p) {n : Notification} (hn : n ∈ p.dispatchCopies)
    (hcopy : n ∈ p.copies) : s.store.ReleasedBy s.now n.id :=
  (hc.copy hp hcopy).releasedBy ((h.proc hp).1 n hn)

theorem setProc (h : s.OnSchedule) {i : Nat} {p : Proc} (hp : p.Timely s.store s.now) :
    (s.setProc i p).OnSchedule :=
  ⟨h.waiting, fun q hq => (List.mem_or_eq_of_mem_set hq).elim (h.procs q) (· ▸ hp), h.queued,
    h.sends⟩

theorem spawn (h : s.OnSchedule) {p : Proc} (hp : p.Timely s.store s.now) : (s.spawn p).OnSchedule :=
  ⟨h.waiting, fun q hq => (List.mem_append.mp hq).elim (h.procs q)
    fun hq => (List.mem_singleton.mp hq) ▸ hp, h.queued, h.sends⟩

/-- A store step that keeps the rows below `nextId` and the waiting rows keeps the invariant. -/
theorem withStore (h : s.OnSchedule) (hc : s.Coherent) {st : Store} (hx : s.store.Extends st)
    (hw : st.Waiting s.now) : (s.withStore st).OnSchedule := by
  refine ⟨hw, fun p hp => ⟨(h.procs p hp).1, fun it hit => ?_⟩, fun u it hit => ?_,
    fun e he => (h.sends e he).extend hx (hc.sends e he)⟩
  · obtain ⟨m, hm, -⟩ := (hc.procs p hp).2 it hit
    exact ((h.procs p hp).2 it hit).extend hx (hc.store.lt_nextId hm)
  · obtain ⟨m, hm, -⟩ := hc.queued u it hit
    exact (h.queued u it hit).extend hx (hc.store.lt_nextId hm)

theorem update (h : s.OnSchedule) (hc : s.Coherent) {id : Nat} {f : Notification → Notification}
    (now : Int) (hf : ∀ n, (f n).fixed = n.fixed)
    (hid : s.store.ReleasedBy s.now id ∨ ∀ n, (f n).status = .cancelled) :
    (s.withStore (s.store.update id f now)).OnSchedule :=
  h.withStore hc (Store.extends_update _ _ _ _ hf)
    (h.waiting.update now (fun n => congrArg (fun x => x.2.2.2.2.2.2) (hf n)) hid)

theorem init (cfg : Config) : (Sys.init cfg).OnSchedule := by
  refine ⟨fun _ _ _ h => (nomatch h), fun p hp => Proc.timely_of_nil ?_ ?_,
    fun u it hit => (by cases u <;> cases hit), fun e he => (nomatch he)⟩ <;>
  · rcases List.mem_append.mp hp with hp | hp
    · rw [List.eq_of_mem_replicate hp]; rfl
    · simp only [List.mem_cons, List.mem_singleton, List.not_mem_nil, or_false] at hp
      rcases hp with rfl | rfl <;> rfl

/-- Every step keeps every row's dispatch behind its `scheduled_at`. -/
theorem step (h : s.OnSchedule) (hc : s.Coherent) {cfg : Config} {a : Action} {s' : Sys}
    (hm : Moves cfg s a s') : s'.OnSchedule := by
  cases hm with
  | tick t hle =>
    exact ⟨h.waiting.mono hle, fun p hp => ⟨fun m hm t' ht => by
      have := (h.procs p hp).1 m hm t' ht; dsimp only; omega,
      fun it hit => ((h.procs p hp).2 it hit).mono hle⟩, fun u it hit => (h.queued u it hit).mono hle,
      h.sends⟩
  | shutdown => exact ⟨h.waiting, h.procs, h.queued, h.sends⟩
  | create req key =>
    exact h.spawn (Proc.timely_of_nil (by unfold Service.startCreate; split <;> rfl)
      (by unfold Service.startCreate; split <;> rfl))
  | createBatch reqs =>
    refine h.spawn (Proc.timely_of_nil ?_ ?_) <;>
      (unfold Service.startCreateBatch; repeat' split) <;> rfl
  | cancel => exact h.spawn (Proc.timely_of_nil rfl rfl)
  | restart =>
    refine ⟨h.waiting, fun p hp => Proc.timely_of_nil ?_ ?_, fun u it hit => (by cases u <;> cases hit),
      h.sends⟩ <;>
    · rcases List.mem_append.mp hp with hp | hp
      · rw [List.eq_of_mem_replicate hp]; rfl
      · simp only [List.mem_cons, List.mem_singleton, List.not_mem_nil, or_false] at hp
        rcases hp with rfl | rfl <;> rfl
  | lookupHit | lookupMiss | insertConflict | batchFail | cancelFail | dequeueEmpty | workerStop
    | fetchSkip | fetchMissing | limitPanic | limitBurst | limitCancelled | settlePanic | workerFail
    | batchCounts | batchCountsFail | pollFail | pollerStop | cancelFetch =>
    exact h.setProc (Proc.timely_of_nil (by first | rfl | (split <;> first | rfl | (split <;> rfl)))
      (by first | rfl | (split <;> first | rfl | (split <;> rfl))))
  | createFail i req key ph => cases ph <;> exact h.setProc (Proc.timely_of_nil (by rfl) (by rfl))
  | insertOk i req key st hp hk =>
    obtain ⟨rfl, -⟩ := Store.create_ok hk
    have hs : (s.withStore (s.store.insert
        (Service.buildNotification req key none s.store.nextId s.now))).OnSchedule :=
      h.withStore hc (Store.extends_insert _ rfl)
        (h.waiting.insert fun _ ht => Service.buildNotification_scheduled ht)
    refine hs.setProc ⟨fun m hm t ht => ?_, fun it hit => ?_⟩
    · split at hm
      · simp [Owner.finish, Proc.dispatchCopies, Proc.copies] at hm
      · rename_i hns
        simp only [Proc.dispatchCopies, Proc.copies, List.mem_singleton] at hm
        subst hm
        simp [Service.buildNotification] at ht
        simp [ht] at hns
    · split at hit <;> cases hit
  | batchInsert i reqs hp =>
    have hid := Service.batchChildren_id_ge reqs s.store.nextBatchId s.store.nextId s.now
    have hsched : ∀ m ∈ Service.batchChildren reqs s.store.nextBatchId s.store.nextId s.now,
        ∀ t, m.scheduledAt = some t → m.status = .scheduled := by
      intro m hm t ht
      obtain ⟨k, hk, rfl⟩ := List.mem_mapIdx.mp hm
      exact Service.buildNotification_scheduled ht
    have hs := h.withStore hc
      (Store.extends_createBatch _ (Service.newBatch s.store.nextBatchId reqs.length s.now) hid)
      (h.waiting.createBatch _ hsched)
    refine hs.setProc ?_
    split
    · exact Proc.timely_of_nil rfl rfl
    · rename_i m rest hf
      refine ⟨fun x hx t ht => ?_, fun it hit => by cases hit⟩
      have hx : x ∈ m :: rest := hx
      rw [← hf, List.mem_filter] at hx
      simp [ht] at hx
  | cancelWrite i id n hp =>
    refine (h.update hc s.now (f := fun n => { n with status := .cancelled }) (fun _ => rfl)
      (.inr fun _ => rfl)).setProc (Proc.timely_of_nil ?_ ?_) <;> rfl
  | offerOk i o n rest q hp hq =>
    have hn := h.copy hc hp (List.mem_cons_self _ _) (List.mem_cons_self _ _)
    refine ⟨h.waiting, fun p hp' => ?_, fun u it hit => ?_, h.sends⟩
    · rcases List.mem_or_eq_of_mem_set hp' with hp' | rfl
      exacts [h.procs p hp', ⟨(h.proc hp).1, fun _ h => (by cases h)⟩]
    · rcases PriorityQueue.enqueue_mem hq hit with rfl | hit
      exacts [hn, h.queued u it hit]
  | offerRefused i o n rest e hp | markFail i o n rest e hp =>
    exact h.setProc ⟨fun m hm => (h.proc hp).1 m (List.mem_cons_of_mem _ (Owner.next_dispatchCopies o n rest m hm)),
      fun it hit => by rw [Owner.next_item] at hit; cases hit⟩
  | markOk i o n rest hp hcan =>
    have hn := h.copy hc hp (List.mem_cons_self _ _) (List.mem_cons_self _ _)
    have hs := h.update hc s.now (f := fun n => { n with status := .queued }) (fun _ => rfl) (.inl hn)
    exact hs.setProc ⟨fun m hm => (h.proc hp).1 m (List.mem_cons_of_mem _ (Owner.next_dispatchCopies o _ rest m hm)),
      fun it hit => by rw [Owner.next_item] at hit; cases hit⟩
  | dequeueHigh i it q hp hq | receive i t it q hp hq =>
    have hr := PriorityQueue.receive_mem hq
    refine ⟨h.waiting, fun p hp' => ?_, fun u it' hit => h.queued u it' (hr.2 u it' hit), h.sends⟩
    rcases List.mem_or_eq_of_mem_set hp' with hp' | rfl
    exacts [h.procs p hp', ⟨fun m hm => (by cases hm), fun it' hit => (by cases hit; exact h.queued _ _ hr.1)⟩]
  | fetchClaim i it n hp hcan hn hs =>
    exact h.setProc ⟨fun m hm t ht => by
      simp only [Proc.dispatchCopies, Proc.copies, List.mem_singleton] at hm
      subst hm
      exact (h.proc hp).2 it rfl m t hn ht, fun _ h => by cases h⟩
  | claim i n hp hcan =>
    have hn := h.copy hc hp (List.mem_singleton_self n) (List.mem_singleton_self n)
    exact (h.update hc s.now (f := fun n => { n with status := .processing }) (fun _ => rfl)
      (.inl hn)).setProc ⟨(h.proc hp).1, fun _ h => by cases h⟩
  | limitGranted i n hp => exact h.setProc ⟨(h.proc hp).1, fun _ h => by cases h⟩
  | sendOk i n msgId hp | sendError i n err hp =>
    have hn := h.copy hc hp (List.mem_singleton_self n) (List.mem_singleton_self n)
    have h' : { s with sendLog := s.sendLog ++ [(n.id, s.now)] }.OnSchedule :=
      ⟨h.waiting, h.procs, h.queued, fun e he => (List.mem_append.mp he).elim (h.sends e)
        fun he => by rw [List.mem_singleton.mp he]; exact hn⟩
    exact h'.setProc ⟨(h.proc hp).1, fun _ h => by cases h⟩
  | markSent i n msgId hp hcan =>
    have hn := h.copy hc hp (List.mem_singleton_self n) (List.mem_singleton_self n)
    have h' := (h.update hc s.now (f := fun m =>
        { m with status := .sent, providerMsgId := some msgId, sentAt := some s.now,
                 errorMessage := none }) (fun _ => rfl)
      (.inl hn)).setProc (i := i) (Proc.timely_of_nil (p := .worker .dequeue) rfl rfl)
    split
    · exact h'.spawn (Proc.timely_of_nil rfl rfl)
    · exact h'
  | settle i n err st hp hcan hf =>
    have hn := h.copy hc hp (List.mem_singleton_self n) (List.mem_singleton_self n)
    exact (h.withStore hc (Worker.extends_handleFailure hf)
      (Worker.waiting_handleFailure hf h.waiting hn)).setProc (i := i)
      (Proc.timely_of_nil (p := .worker .dequeue) rfl rfl)
  | batchWrite i b c t hp =>
    have hb : (s.withStore (s.store.writeBatchCounts b c t)).OnSchedule :=
      h.withStore hc (fun j n hn _ => ⟨n, hn, rfl⟩) h.waiting
    exact hb.setProc (i := i) (Proc.timely_of_nil (p := .returned .finished) rfl rfl)
  | poll i k found hp hcan hf =>
    refine h.setProc ⟨fun m hm t ht => ?_, fun it hit => by cases found <;> cases hit⟩
    have hm' : m ∈ found := by cases found <;> simp_all [Poller.enqueueAll, Proc.dispatchCopies, Proc.copies]
    obtain ⟨hrow, hdue⟩ := hf.mem hm'
    cases k with
    | scheduled =>
      simp only [PollKind.due, Store.dueScheduled, ht, Bool.and_eq_true, decide_eq_true_eq] at hdue
      exact hdue.2
    | retry =>
      by_contra hlt
      simp only [PollKind.due, Store.dueRetry, Bool.and_eq_true, decide_eq_true_eq] at hdue
      rcases h.waiting m.id m t (hc.store.mem_allRows hrow) ht (by omega) with hs | hs <;>
        rw [hdue.1.1] at hs <;> cases hs

theorem of_reachable {cfg : Config} (hr : Reachable cfg s) : s.OnSchedule := by
  induction hr with
  | init => exact init cfg
  | step hr _ hs ih => exact ih.step (Sys.Coherent.of_reach hr) (step_moves hs)

end Sys.OnSchedule

/-- No `Send` of a row comes before its `scheduled_at`, and no queue item of it is made before
then: every enqueue loop about to `Enqueue` a row, and every item in the queue, is of a row
whose time has come. -/
theorem scheduled_rows_wait_for_their_time {cfg : Config} {s : Sys} (hr : Reachable cfg s) :
    (∀ e ∈ s.sendLog, ∀ n t, s.store.rows e.1 = some n → n.scheduledAt = some t → t ≤ e.2) ∧
    (∀ (i : Nat) (o : Owner) (m : Notification) (rest : List Notification),
      s.procs[i]? = some (.enqueue o .offer m rest) →
      ∀ n t, s.store.rows m.id = some n → n.scheduledAt = some t → t ≤ s.now) ∧
    (∀ (u : Tier), ∀ it ∈ s.queue.buffer u, ∀ n t, s.store.rows it.notificationId = some n →
      n.scheduledAt = some t → t ≤ s.now) := by
  have h := Sys.OnSchedule.of_reachable hr
  have hc := Sys.Coherent.of_reach hr
  exact ⟨h.sends, fun i o m rest hp =>
    h.copy hc hp (List.mem_cons_self _ _) (List.mem_cons_self _ _), h.queued⟩

/-- A request scheduled for `10`: the scheduler enqueues it once the clock reads `10`, and a
worker sends it then. -/
def scheduledRun : List Action :=
  [.create ⟨channelSMS, "+905551234567", "Hello", priorityNormal, some 10⟩ "", .step 17, .tick 10,
    .poll 16 [Service.buildNotification ⟨channelSMS, "+905551234567", "Hello", priorityNormal, some 10⟩
      "" none 0 0],
    .step 16, .step 16, .step 0, .receive 0 .normal, .step 0, .step 0, .step 0,
    .reply 0 (.ok "msg-1")]

theorem scheduled_row_sent_at_its_time :
    Reachable Config.default (reached Config.default scheduledRun) ∧
      (reached Config.default scheduledRun).sendLog = [(0, 10)] ∧
      ((reached Config.default scheduledRun).store.rows 0).bind (·.scheduledAt) = some 10 ∧
      ∀ e ∈ (reached Config.default scheduledRun).sendLog, ∀ n t,
        (reached Config.default scheduledRun).store.rows e.1 = some n → n.scheduledAt = some t →
        t ≤ e.2 :=
  have hr : Reachable Config.default (reached Config.default scheduledRun) :=
    Reachable.reached (by decide)
  ⟨hr, by decide, by decide, (scheduled_rows_wait_for_their_time hr).1⟩

end NotificationDispatch
