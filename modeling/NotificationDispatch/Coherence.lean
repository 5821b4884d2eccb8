import NotificationDispatch.Moves

/-! # Rows, and the copies goroutines hold

Every goroutine that read a row keeps a copy of it (`Proc.copies`), and a worker between
`Dequeue` and `GetByID` keeps the queue item (`Proc.item?`). No statement after the `INSERT`
writes the columns of `Notification.fixed`, and rows are never deleted, so each copy, and each
queued or held item, still names a row with the same fixed columns: `Sys.Coherent`, which
holds in every reachable state. Every later invariant identifies rows through it.
-/

namespace NotificationDispatch
set_option autoImplicit false

/-- The columns no statement writes after the `INSERT`. -/
def Notification.fixed (n : Notification) :
    Nat × Option Nat × Channel × Priority × Option String × Nat × Option Int :=
  (n.id, n.batchId, n.channel, n.priority, n.idempotencyKey, n.maxRetries, n.scheduledAt)

theorem Notification.item_eq_of_fixed {m n : Notification} (h : m.fixed = n.fixed) :
    m.item = n.item := by
  simp only [Notification.fixed, Prod.mk.injEq] at h
  simp [Notification.item, h]

/-- The rows goroutine `p` holds a copy of. -/
def Proc.copies : Proc → List Notification
  | .cancel _ (.write n) => [n]
  | .enqueue _ _ n rest => n :: rest
  | .worker (.claim n) | .worker (.limit n) | .worker (.send n) | .worker (.markSent n _)
  | .worker (.handleFailure n _) => [n]
  | _ => []

/-- The queue item a worker holds between `Dequeue` and `GetByID`. -/
def Proc.item? : Proc → Option Item
  | .worker (.fetch it) => some it
  | _ => none

namespace Store

/-- A row sits at its own id, and none at or past `nextId`. -/
structure Valid (st : Store) : Prop where
  ids : ∀ j n, st.rows j = some n → n.id = j
  fresh : ∀ j, st.nextId ≤ j → st.rows j = none

/-- Every row of `st` is still in `st'`, with the same fixed columns. -/
def Keeps (st st' : Store) : Prop :=
  ∀ j n, st.rows j = some n → ∃ n', st'.rows j = some n' ∧ n'.fixed = n.fixed

theorem Keeps.refl (st : Store) : st.Keeps st := fun _ n h => ⟨n, h, rfl⟩

theorem Valid.mem_allRows {st : Store} (h : st.Valid) {n : Notification} (hn : n ∈ st.allRows) :
    st.rows n.id = some n := by
  obtain ⟨j, -, hj⟩ := Store.mem_allRows.mp hn
  rwa [h.ids j n hj]

theorem Valid.update {st : Store} (h : st.Valid) (id : Nat) (f : Notification → Notification)
    (now : Int) (hf : ∀ n, (f n).id = n.id) : (st.update id f now).Valid := by
  refine ⟨fun j m hm => ?_, fun j hj => ?_⟩
  · obtain ⟨n, hn, ⟨-, rfl⟩ | rfl⟩ := update_rows_some hm
    · exact (hf n).trans (h.ids j n hn)
    · exact h.ids j _ hn
  · rw [update_rows]
    split <;> simp [h.fresh j hj]

theorem keeps_update (st : Store) (id : Nat) (f : Notification → Notification) (now : Int)
    (hf : ∀ n, (f n).fixed = n.fixed) : st.Keeps (st.update id f now) := by
  intro j n hn
  rw [update_rows]
  split
  · subst j; exact ⟨{ f n with updatedAt := now }, by simp [hn], hf n⟩
  · exact ⟨n, hn, rfl⟩

theorem keeps_updateStatus (st : Store) (id : Nat) (status : Status) (now : Int) :
    st.Keeps (st.updateStatus id status now) :=
  keeps_update st id (fun n => { n with status := status }) now fun _ => rfl

theorem Valid.insert {st : Store} (h : st.Valid) {n : Notification} (hn : n.id = st.nextId) :
    (st.insert n).Valid := by
  refine ⟨fun j m hm => ?_, fun j hj => ?_⟩
  · rcases insert_rows_some hm with ⟨rfl, rfl⟩ | hm
    exacts [rfl, h.ids j m hm]
  · simp only [insert_nextId] at hj
    simp [h.fresh j (by omega), show j ≠ n.id by omega]

theorem keeps_insert {st : Store} (h : st.Valid) (n : Notification) (hn : n.id = st.nextId) :
    st.Keeps (st.insert n) := by
  intro j m hm
  have : j ≠ n.id := fun hj => by rw [h.fresh j (by omega)] at hm; cases hm
  exact ⟨m, by simp [this, hm], rfl⟩

theorem foldl_insert_valid {ns : List Notification} {st : Store} (h : st.Valid)
    (hns : ∀ k (hk : k < ns.length), ns[k].id = st.nextId + k) : (ns.foldl insert st).Valid := by
  induction ns generalizing st with
  | nil => exact h
  | cons n ns ih =>
    refine ih (h.insert (by simpa using hns 0 (by simp))) fun k hk => ?_
    have := hns (k + 1) (by simp; omega)
    simp only [List.getElem_cons_succ] at this
    simp only [insert_nextId]; omega

theorem foldl_insert_rows_of_ne {ns : List Notification} {st : Store} {j : Nat}
    (hns : ∀ m ∈ ns, m.id ≠ j) : (ns.foldl insert st).rows j = st.rows j := by
  induction ns generalizing st with
  | nil => rfl
  | cons n ns ih =>
    rw [List.foldl_cons, ih fun m hm => hns m (List.mem_cons_of_mem _ hm), insert_rows,
      if_neg (Ne.symm (hns n (List.mem_cons_self _ _)))]

/-- The `k`-th inserted row sits at `nextId + k`. -/
theorem foldl_insert_rows_getElem {ns : List Notification} {st : Store}
    (hns : ∀ k (hk : k < ns.length), ns[k].id = st.nextId + k) (k : Nat) (hk : k < ns.length) :
    (ns.foldl insert st).rows (st.nextId + k) = some ns[k] := by
  induction ns generalizing st k with
  | nil => cases hk
  | cons n ns ih =>
    have hrest : ∀ k (hk : k < ns.length), ns[k].id = (st.insert n).nextId + k := fun k hk => by
      have := hns (k + 1) (by simp; omega)
      simp only [List.getElem_cons_succ] at this
      simp only [insert_nextId]; omega
    rw [List.foldl_cons]
    cases k with
    | zero =>
      have hn : n.id = st.nextId := by simpa using hns 0 (by simp)
      rw [foldl_insert_rows_of_ne fun m hm => ?_]
      · simp [hn]
      · obtain ⟨k', hk', rfl⟩ := List.mem_iff_getElem.mp hm
        rw [hrest k' hk', insert_nextId]; omega
    | succ k =>
      have := ih hrest k (by simp at hk; omega)
      rw [insert_nextId] at this
      simpa [Nat.add_assoc, Nat.add_comm 1 k] using this

theorem Valid.createBatch {st : Store} (h : st.Valid) (b : Batch) {ns : List Notification}
    (hns : ∀ k (hk : k < ns.length), ns[k].id = st.nextId + k) : (st.createBatch b ns).Valid :=
  foldl_insert_valid ⟨h.ids, h.fresh⟩ hns

theorem createBatch_rows_of_lt {st : Store} (b : Batch) {ns : List Notification}
    (hns : ∀ m ∈ ns, st.nextId ≤ m.id) {j : Nat} (hj : j < st.nextId) :
    (st.createBatch b ns).rows j = st.rows j :=
  foldl_insert_rows_of_ne fun m hm => by have := hns m hm; omega

theorem Valid.lt_nextId {st : Store} (h : st.Valid) {j : Nat} {n : Notification}
    (hn : st.rows j = some n) : j < st.nextId := by
  by_contra hj
  rw [h.fresh j (by omega)] at hn; cases hn

theorem keeps_createBatch {st : Store} (h : st.Valid) (b : Batch) {ns : List Notification}
    (hns : ∀ m ∈ ns, st.nextId ≤ m.id) : st.Keeps (st.createBatch b ns) :=
  fun j n hn => ⟨n, by rw [createBatch_rows_of_lt b hns (h.lt_nextId hn)]; exact hn, rfl⟩

/-- The children of a batch sit at consecutive fresh ids. -/
theorem createBatch_rows_mem {st : Store} (b : Batch) {ns : List Notification}
    (hns : ∀ k (hk : k < ns.length), ns[k].id = st.nextId + k) {m : Notification} (hm : m ∈ ns) :
    (st.createBatch b ns).rows m.id = some m := by
  obtain ⟨k, hk, rfl⟩ := List.mem_iff_getElem.mp hm
  rw [hns k hk]
  unfold createBatch
  exact foldl_insert_rows_getElem (by exact hns) k hk

/-- `n` is a copy of a row of `st`: the row at `n.id` has `n`'s fixed columns. -/
def HasCopy (st : Store) (n : Notification) : Prop :=
  ∃ m, st.rows n.id = some m ∧ m.fixed = n.fixed

/-- `it` is the queue item of a row of `st`. -/
def Names (st : Store) (it : Item) : Prop :=
  ∃ m, st.rows it.notificationId = some m ∧ m.item = it

theorem Keeps.hasCopy {st st' : Store} (hk : st.Keeps st') {n : Notification} (h : st.HasCopy n) :
    st'.HasCopy n :=
  let ⟨_, hm, hf⟩ := h
  let ⟨m', hm', hf'⟩ := hk _ _ hm
  ⟨m', hm', hf'.trans hf⟩

theorem Keeps.names {st st' : Store} (hk : st.Keeps st') {it : Item} (h : st.Names it) :
    st'.Names it :=
  let ⟨_, hm, hi⟩ := h
  let ⟨m', hm', hf'⟩ := hk _ _ hm
  ⟨m', hm', (Notification.item_eq_of_fixed hf').trans hi⟩

theorem Valid.hasCopy {st : Store} (h : st.Valid) {j : Nat} {n : Notification}
    (hn : st.rows j = some n) : st.HasCopy n :=
  ⟨n, by rw [h.ids j n hn]; exact hn, rfl⟩

theorem HasCopy.names {st : Store} {n : Notification} (h : st.HasCopy n) : st.Names n.item :=
  let ⟨m, hm, hf⟩ := h
  ⟨m, hm, Notification.item_eq_of_fixed hf⟩

end Store

theorem Service.batchChildren_id (reqs : List CreateNotificationRequest) (b firstId : Nat)
    (now : Int) (k : Nat) (hk : k < (Service.batchChildren reqs b firstId now).length) :
    (Service.batchChildren reqs b firstId now)[k].id = firstId + k := by
  simp [Service.batchChildren, Service.buildNotification]

theorem Service.batchChildren_id_ge (reqs : List CreateNotificationRequest) (b firstId : Nat)
    (now : Int) : ∀ m ∈ Service.batchChildren reqs b firstId now, firstId ≤ m.id := by
  intro m hm
  obtain ⟨k, hk, rfl⟩ := List.mem_iff_getElem.mp hm
  rw [Service.batchChildren_id]; omega

/-- The copies and the item `p` holds are of rows of `st`. -/
def Proc.CoherentIn (st : Store) (p : Proc) : Prop :=
  (∀ n ∈ p.copies, st.HasCopy n) ∧ ∀ it, p.item? = some it → st.Names it

theorem Proc.CoherentIn.keeps {st st' : Store} (hk : st.Keeps st') {p : Proc}
    (h : p.CoherentIn st) : p.CoherentIn st' :=
  ⟨fun n hn => hk.hasCopy (h.1 n hn), fun it hit => hk.names (h.2 it hit)⟩

theorem Proc.coherentIn_of_copies {st : Store} {p : Proc} (hi : p.item? = none)
    (hc : ∀ n ∈ p.copies, st.HasCopy n) : p.CoherentIn st :=
  ⟨hc, fun it h => by rw [hi] at h; cases h⟩

/-- Where an enqueue loop goes next, it holds only rows it held before. -/
theorem Owner.next_copies (o : Owner) (n : Notification) (rest : List Notification) :
    ∀ m ∈ (o.next n rest).copies, m ∈ rest := by
  cases rest with
  | nil => cases o <;> simp [Owner.next, Owner.finish, Proc.copies]
  | cons r rest => simp [Owner.next, Proc.copies]

theorem Owner.next_item (o : Owner) (n : Notification) (rest : List Notification) :
    (o.next n rest).item? = none := by
  cases rest with
  | nil => cases o <;> rfl
  | cons r rest => rfl

theorem Proc.coherentIn_nil {st : Store} {p : Proc} (hc : p.copies = []) (hi : p.item? = none) :
    p.CoherentIn st :=
  Proc.coherentIn_of_copies hi fun n hn => by rw [hc] at hn; cases hn

/-- What a reachable state keeps about its rows. -/
structure Sys.Coherent (s : Sys) : Prop where
  store : s.store.Valid
  procs : ∀ p ∈ s.procs, p.CoherentIn s.store
  queued : ∀ t, ∀ it ∈ s.queue.buffer t, s.store.Names it
  sends : ∀ e ∈ s.sendLog, e.1 < s.store.nextId

namespace Sys.Coherent

variable {s : Sys}

theorem proc (h : s.Coherent) {i : Nat} {p : Proc} (hp : s.procs[i]? = some p) :
    p.CoherentIn s.store :=
  h.procs p (List.getElem?_mem hp)

theorem copy (h : s.Coherent) {i : Nat} {p : Proc} (hp : s.procs[i]? = some p) {n : Notification}
    (hn : n ∈ p.copies) : s.store.HasCopy n :=
  (h.proc hp).1 n hn

theorem setProc (h : s.Coherent) {i : Nat} {p : Proc} (hp : p.CoherentIn s.store) :
    (s.setProc i p).Coherent :=
  ⟨h.store, fun q hq => (List.mem_or_eq_of_mem_set hq).elim (h.procs q) (· ▸ hp), h.queued, h.sends⟩

theorem spawn (h : s.Coherent) {p : Proc} (hp : p.CoherentIn s.store) : (s.spawn p).Coherent :=
  ⟨h.store, fun q hq => (List.mem_append.mp hq).elim (h.procs q)
    fun hq => (List.mem_singleton.mp hq) ▸ hp, h.queued, h.sends⟩

theorem withQueue (h : s.Coherent) {q : PriorityQueue}
    (hq : ∀ t, ∀ it ∈ q.buffer t, s.store.Names it) : (s.withQueue q).Coherent :=
  ⟨h.store, h.procs, hq, h.sends⟩

theorem withStore (h : s.Coherent) {st : Store} (hv : st.Valid) (hk : s.store.Keeps st)
    (hn : s.store.nextId ≤ st.nextId) : (s.withStore st).Coherent :=
  ⟨hv, fun p hp => (h.procs p hp).keeps hk, fun t it hit => hk.names (h.queued t it hit),
    fun e he => Nat.lt_of_lt_of_le (h.sends e he) hn⟩

theorem update (h : s.Coherent) (id : Nat) (f : Notification → Notification) (now : Int)
    (hf : ∀ n, (f n).fixed = n.fixed) : (s.withStore (s.store.update id f now)).Coherent :=
  h.withStore (h.store.update id f now fun n => congrArg Prod.fst (hf n))
    (Store.keeps_update _ _ _ _ hf) (Nat.le_refl _)

theorem handleFailure (h : s.Coherent) {backoff : List Int} {n : Notification} {err : String}
    {now : Int} {st : Store} (hf : Worker.handleFailure backoff s.store n err now = some st) :
    (s.withStore st).Coherent := by
  rcases Worker.handleFailure_some hf with ⟨-, rfl⟩ | ⟨-, d, -, rfl⟩ <;>
    exact h.update _ _ _ fun _ => rfl

theorem initProcs_coherentIn (cfg : Config) (st : Store) : ∀ p ∈ initProcs cfg, p.CoherentIn st := by
  intro p hp
  rcases List.mem_append.mp hp with hp | hp
  · rw [List.eq_of_mem_replicate hp]; exact Proc.coherentIn_nil rfl rfl
  · simp only [List.mem_cons, List.mem_singleton, List.not_mem_nil, or_false] at hp
    rcases hp with rfl | rfl <;> exact Proc.coherentIn_nil rfl rfl

theorem init (cfg : Config) : (Sys.init cfg).Coherent :=
  ⟨⟨fun _ _ h => (nomatch h), fun _ _ => rfl⟩, initProcs_coherentIn cfg _,
    fun t it h => (by cases t <;> cases h), fun e h => (nomatch h)⟩

theorem updateStatus (h : s.Coherent) (id : Nat) (status : Status) (now : Int) :
    (s.withStore (s.store.updateStatus id status now)).Coherent :=
  h.update id (fun n => { n with status := status }) now fun _ => rfl

theorem insert (h : s.Coherent) {n : Notification} (hn : n.id = s.store.nextId) :
    (s.withStore (s.store.insert n)).Coherent :=
  h.withStore (h.store.insert hn) (Store.keeps_insert h.store n hn) (by simp)

theorem enqueue_copies (h : s.Coherent) {i : Nat} {o : Owner} {ph : EnqueuePhase}
    {n : Notification} {rest : List Notification} (hp : s.procs[i]? = some (.enqueue o ph n rest))
    (o' : Owner) (n' : Notification) : (o'.next n' rest).CoherentIn s.store :=
  Proc.coherentIn_of_copies (o'.next_item n' rest) fun m hm =>
    h.copy hp (List.mem_cons_of_mem _ (o'.next_copies n' rest m hm))

theorem hold (h : s.Coherent) {i : Nat} {n : Notification} (hn : s.store.HasCopy n) :
    (s.setProc i (.worker (.claim n))).Coherent ∧ (s.setProc i (.worker (.limit n))).Coherent ∧
      (s.setProc i (.worker (.send n))).Coherent := by
  have hc : ∀ p : Proc, p.copies = [n] → p.item? = none → p.CoherentIn s.store :=
    fun p hc hi => Proc.coherentIn_of_copies hi fun m hm => by
      rw [hc, List.mem_singleton] at hm; exact hm ▸ hn
  exact ⟨h.setProc (hc _ rfl rfl), h.setProc (hc _ rfl rfl), h.setProc (hc _ rfl rfl)⟩

/-- Every step keeps the rows coherent with what the goroutines hold. -/
theorem step (h : s.Coherent) {cfg : Config} {a : Action} {s' : Sys} (hm : Moves cfg s a s') :
    s'.Coherent := by
  cases hm with
  | tick | shutdown => exact ⟨h.store, h.procs, h.queued, h.sends⟩
  | create req key =>
    refine h.spawn (Proc.coherentIn_nil ?_ ?_) <;>
      (unfold Service.startCreate; split <;> rfl)
  | createBatch reqs =>
    refine h.spawn (Proc.coherentIn_nil ?_ ?_) <;>
      (unfold Service.startCreateBatch; repeat' split) <;> rfl
  | cancel => exact h.spawn (Proc.coherentIn_nil (by rfl) (by rfl))
  | restart =>
    refine ⟨h.store, fun p hp => ?_, fun t it hit => (by cases t <;> cases hit), h.sends⟩
    exact initProcs_coherentIn cfg _ p hp
  | lookupHit | lookupMiss | insertConflict | batchFail | cancelFail | dequeueEmpty | workerStop
    | fetchSkip | fetchMissing | limitPanic | limitBurst | limitCancelled | settlePanic
    | workerFail | batchCounts | batchCountsFail | pollFail | pollerStop =>
    exact h.setProc (Proc.coherentIn_nil (by rfl) (by rfl))
  | createFail i req key ph =>
    cases ph <;> exact h.setProc (Proc.coherentIn_nil (by rfl) (by rfl))
  | insertOk i req key st hp hk =>
    obtain ⟨rfl, -⟩ := Store.create_ok hk
    refine (h.insert (by rfl)).setProc ?_
    split
    · exact Proc.coherentIn_nil rfl rfl
    · refine Proc.coherentIn_of_copies rfl fun m hm => ?_
      simp only [Proc.copies, List.mem_singleton] at hm
      subst hm
      exact ⟨_, by simp [Service.buildNotification], rfl⟩
  | batchInsert i reqs hp =>
    have hid := Service.batchChildren_id reqs s.store.nextBatchId s.store.nextId s.now
    have hc := h.withStore (h.store.createBatch (Service.newBatch s.store.nextBatchId reqs.length s.now)
      hid) (Store.keeps_createBatch h.store _ (Service.batchChildren_id_ge _ _ _ _)) (by simp)
    refine hc.setProc ?_
    split
    · exact Proc.coherentIn_nil rfl rfl
    · rename_i m rest hf
      refine Proc.coherentIn_of_copies rfl fun x hx => ⟨x, ?_, rfl⟩
      exact Store.createBatch_rows_mem _ hid (List.mem_of_mem_filter (by
        simp only [Service.newBatch] at hf; rw [hf]; exact hx))
  | cancelFetch i id hp =>
    refine h.setProc ?_
    split
    · exact Proc.coherentIn_nil rfl rfl
    · rename_i n hn
      split
      · exact Proc.coherentIn_nil rfl rfl
      · exact Proc.coherentIn_of_copies rfl fun m hm => by
          simp only [Proc.copies, List.mem_singleton] at hm
          exact hm ▸ h.store.hasCopy (Store.getById_ok hn)
  | cancelWrite i id n hp =>
    exact (h.updateStatus id .cancelled s.now).setProc (Proc.coherentIn_nil (by rfl) (by rfl))
  | offerOk i o n rest q hp hq =>
    have hn := h.copy hp (List.mem_cons_self _ _)
    refine (h.withQueue fun t it hit => ?_).setProc ?_
    · rcases PriorityQueue.enqueue_mem hq hit with rfl | hit
      exacts [hn.names, h.queued t it hit]
    · exact ⟨(h.proc hp).1, (h.proc hp).2⟩
  | offerRefused i o n rest e hp | markFail i o n rest msg hp =>
    exact h.setProc (h.enqueue_copies hp o n)
  | markOk i o n rest hp =>
    exact (h.updateStatus n.id .queued s.now).setProc
      ((h.enqueue_copies hp o _).keeps (Store.keeps_updateStatus _ _ _ _))
  | dequeueHigh i it q hp hq | receive i t it q hp hq =>
    have hr := PriorityQueue.receive_mem hq
    refine (h.withQueue fun u it' hit => h.queued u it' (hr.2 u it' hit)).setProc ?_
    exact ⟨fun n hn => (nomatch hn), fun it' hit => by cases hit; exact h.queued _ _ hr.1⟩
  | fetchClaim i it n hp hc hn hs => exact (h.hold (h.store.hasCopy hn)).1
  | claim i n hp =>
    exact ((h.updateStatus n.id .processing s.now).hold
      ((Store.keeps_updateStatus _ _ _ _).hasCopy (h.copy hp (List.mem_singleton_self n)))).2.1
  | limitGranted i n hp => exact (h.hold (h.copy hp (List.mem_singleton_self n))).2.2
  | sendOk i n msgId hp | sendError i n err hp =>
    obtain ⟨m, hm, -⟩ := h.copy hp (List.mem_singleton_self n)
    have h' : { s with sendLog := s.sendLog ++ [(n.id, s.now)] }.Coherent :=
      ⟨h.store, h.procs, h.queued, fun e he => (List.mem_append.mp he).elim (h.sends e)
        fun he => by rw [List.mem_singleton.mp he]; exact h.store.lt_nextId hm⟩
    refine h'.setProc (Proc.coherentIn_of_copies (by rfl) fun m hm => ?_)
    exact h.copy hp hm
  | markSent i n msgId hp =>
    have hu : (s.withStore (s.store.markSent n.id msgId s.now s.now)).Coherent :=
      h.update _ _ _ fun _ => rfl
    have h' := hu.setProc (i := i) (Proc.coherentIn_nil (p := .worker .dequeue) rfl rfl)
    split
    · exact h'.spawn (Proc.coherentIn_nil rfl rfl)
    · exact h'
  | settle i n err st hp hc hf =>
    exact (h.handleFailure hf).setProc (Proc.coherentIn_nil (by rfl) (by rfl))
  | batchWrite i b c t hp =>
    have hb : (s.withStore (s.store.writeBatchCounts b c t)).Coherent :=
      h.withStore ⟨h.store.ids, h.store.fresh⟩ (fun j n hn => ⟨n, hn, rfl⟩) (Nat.le_refl _)
    exact hb.setProc (Proc.coherentIn_nil (by rfl) (by rfl))
  | poll i k found hp hc hf =>
    refine h.setProc (Proc.coherentIn_of_copies (by cases found <;> rfl) fun m hm => ?_)
    have hm' : m ∈ found := by cases found <;> simp_all [Poller.enqueueAll, Proc.copies]
    exact h.store.hasCopy (h.store.mem_allRows (hf.mem hm').1)

theorem of_reach {cfg : Config} {P : Sys → Action → Prop} (hr : Reach cfg P s) : s.Coherent :=
  Reach.induct (Sys.Coherent.init cfg) (fun _ _ _ h _ hs => h.step (step_moves hs)) hr

end Sys.Coherent

end NotificationDispatch
