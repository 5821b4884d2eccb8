import NotificationDispatch.Schedule

/-! # Rows no poller selects stay where they are

The queue lives in memory, and the pollers' due queries select only `scheduled` rows and `failed`
rows with retries left. A row in any other status that nothing holds for dispatch (no
dispatching goroutine's copy, no worker's item, no queued item) is never picked up again: only
`Cancel` still writes it, and only to `cancelled`, and no worker sends it. `Sys.Stranded` says so
along a run. A restart leaves every row in that position, since it drops the queue and every
goroutine: a row `pending`, `queued` or `processing` at the restart is never sent afterwards
(`restart_strands_unpolled_rows`).
-/

namespace NotificationDispatch
set_option autoImplicit false

namespace Store

/-- Row `j` is there, in status `st` or `cancelled`. -/
def Stuck (st : Store) (j : Nat) (status : Status) : Prop :=
  ∃ n, st.rows j = some n ∧ (n.status = status ∨ n.status = .cancelled)

variable {st : Store} {j : Nat} {status : Status}

theorem Stuck.update_of_ne (h : st.Stuck j status) {id : Nat} (hid : id ≠ j)
    (f : Notification → Notification) (now : Int) : (st.update id f now).Stuck j status := by
  rwa [Stuck, update_rows_of_ne _ _ _ (Ne.symm hid)]

theorem Stuck.cancel (h : st.Stuck j status) (id : Nat) (now : Int) :
    (st.cancel id now).Stuck j status := by
  by_cases hid : id = j
  · subst hid
    obtain ⟨n, hn, -⟩ := h
    exact ⟨{ n with status := .cancelled, updatedAt := now }, by simp [Store.cancel, update_rows, hn],
      .inr rfl⟩
  · exact h.update_of_ne hid _ _

theorem Stuck.insert (h : st.Stuck j status) (hv : st.Valid) {n : Notification}
    (hn : n.id = st.nextId) : (st.insert n).Stuck j status := by
  obtain ⟨m, hm, hs⟩ := h
  have hj : j ≠ n.id := by have := hv.lt_nextId hm; omega
  exact ⟨m, by simp [insert, hj, hm], hs⟩

theorem Stuck.createBatch (h : st.Stuck j status) (hv : st.Valid) (b : Batch) {ns : List Notification}
    (hns : ∀ m ∈ ns, st.nextId ≤ m.id) : (st.createBatch b ns).Stuck j status := by
  obtain ⟨m, hm, hs⟩ := h
  exact ⟨m, by rw [createBatch_rows_of_lt b hns (hv.lt_nextId hm)]; exact hm, hs⟩

end Store

/-- Goroutine `p` holds nothing of row `j` to dispatch it. -/
def Proc.Free (j : Nat) (p : Proc) : Prop :=
  (∀ m ∈ p.dispatchCopies, m.id ≠ j) ∧ ∀ it, p.item? = some it → it.notificationId ≠ j

theorem Proc.free_of_nil {j : Nat} {p : Proc} (hc : p.dispatchCopies = []) (hi : p.item? = none) :
    p.Free j :=
  ⟨fun m hm => (by rw [hc] at hm; cases hm), fun it h => (by rw [hi] at h; cases h)⟩

theorem initProcs_free (cfg : Config) (j : Nat) : ∀ p ∈ initProcs cfg, p.Free j := by
  intro p hp
  refine Proc.free_of_nil ?_ ?_ <;>
  · rcases List.mem_append.mp hp with hp | hp
    · rw [List.eq_of_mem_replicate hp]; rfl
    · simp only [List.mem_cons, List.mem_singleton, List.not_mem_nil, or_false] at hp
      rcases hp with rfl | rfl <;> rfl

/-- From `s₀` to `s`, row `j` has stayed in status `st` or been cancelled, nothing holds it for
dispatch, and no `Send` of it has been recorded since `s₀`. -/
structure Sys.Stranded (s₀ s : Sys) (j : Nat) (st : Status) : Prop where
  row : s.store.Stuck j st
  procs : ∀ p ∈ s.procs, p.Free j
  queued : ∀ u, ∀ it ∈ s.queue.buffer u, it.notificationId ≠ j
  sends : ∃ new, s.sendLog = s₀.sendLog ++ new ∧ ∀ e ∈ new, e.1 ≠ j

namespace Sys.Stranded

variable {s₀ s : Sys} {j : Nat} {st : Status} {cfg : Config}

theorem proc (h : s₀.Stranded s j st) {i : Nat} {p : Proc} (hp : s.procs[i]? = some p) : p.Free j :=
  h.procs p (List.getElem?_mem hp)

/-- A copy a dispatching goroutine holds is of another row. -/
theorem copy (h : s₀.Stranded s j st) {i : Nat} {p : Proc} (hp : s.procs[i]? = some p)
    {n : Notification} (hn : n ∈ p.dispatchCopies) : n.id ≠ j :=
  (h.proc hp).1 n hn

theorem setProc (h : s₀.Stranded s j st) {i : Nat} {p : Proc} (hp : p.Free j) :
    s₀.Stranded (s.setProc i p) j st :=
  ⟨h.row, fun q hq => (List.mem_or_eq_of_mem_set hq).elim (h.procs q) (· ▸ hp), h.queued, h.sends⟩

theorem spawn (h : s₀.Stranded s j st) {p : Proc} (hp : p.Free j) : s₀.Stranded (s.spawn p) j st :=
  ⟨h.row, fun q hq => (List.mem_append.mp hq).elim (h.procs q)
    fun hq => (List.mem_singleton.mp hq) ▸ hp, h.queued, h.sends⟩

theorem withStore (h : s₀.Stranded s j st) {st' : Store} (hs : st'.Stuck j st) :
    s₀.Stranded (s.withStore st') j st :=
  ⟨hs, h.procs, h.queued, h.sends⟩

/-- A goroutine that replaces its hold by the rest of its enqueue loop. -/
theorem next (h : s₀.Stranded s j st) {i : Nat} {o : Owner} {ph : EnqueuePhase} {n : Notification}
    {rest : List Notification} (hp : s.procs[i]? = some (.enqueue o ph n rest)) (m : Notification) :
    (o.next m rest).Free j :=
  ⟨fun x hx => h.copy hp (List.mem_cons_of_mem _ (Owner.next_dispatchCopies o m rest x hx)),
    fun it hit => by rw [Owner.next_item] at hit; cases hit⟩

/-- A `Send` of another row. -/
theorem send (h : s₀.Stranded s j st) {n : Notification} (hn : n.id ≠ j) :
    s₀.Stranded { s with sendLog := s.sendLog ++ [(n.id, s.now)] } j st := by
  obtain ⟨new, hlog, hnew⟩ := h.sends
  refine ⟨h.row, h.procs, h.queued, new ++ [(n.id, s.now)], by simp [hlog], fun e he => ?_⟩
  rcases List.mem_append.mp he with he | he
  exacts [hnew e he, by rw [List.mem_singleton.mp he]; exact hn]

/-- Every step keeps a row that no due query admits stranded. -/
theorem step (h : s₀.Stranded s j st) (hc : s.Coherent) (hst : st ≠ .scheduled ∧ st ≠ .failed)
    {a : Action} {s' : Sys} (hm : Moves cfg s a s') : s₀.Stranded s' j st := by
  cases hm with
  | tick | shutdown => exact ⟨h.row, h.procs, h.queued, h.sends⟩
  | create req key =>
    exact h.spawn (Proc.free_of_nil (by unfold Service.startCreate; split <;> rfl)
      (by unfold Service.startCreate; split <;> rfl))
  | createBatch reqs =>
    refine h.spawn (Proc.free_of_nil ?_ ?_) <;>
      (unfold Service.startCreateBatch; repeat' split) <;> rfl
  | cancel => exact h.spawn (Proc.free_of_nil rfl rfl)
  | restart =>
    exact ⟨h.row, initProcs_free _ j, fun u it hit => (by cases u <;> cases hit), h.sends⟩
  | lookupHit | lookupMiss | insertConflict | batchFail | cancelFail | dequeueEmpty | workerStop
    | fetchSkip | fetchMissing | limitPanic | limitBurst | limitCancelled | settlePanic | workerFail
    | batchCounts | batchCountsFail | pollFail | pollerStop | cancelFetch =>
    exact h.setProc (Proc.free_of_nil (by first | rfl | (split <;> first | rfl | (split <;> rfl)))
      (by first | rfl | (split <;> first | rfl | (split <;> rfl))))
  | createFail i req key ph => cases ph <;> exact h.setProc (Proc.free_of_nil rfl rfl)
  | insertOk i req key st' hp hk =>
    obtain ⟨rfl, -⟩ := Store.create_ok hk
    have hrow := h.row.insert hc.store (n := Service.buildNotification req key none s.store.nextId s.now) rfl
    obtain ⟨m, hm, -⟩ := h.row
    have hj : j < s.store.nextId := hc.store.lt_nextId hm
    refine (h.withStore hrow).setProc ⟨fun x hx => ?_, fun it hit => by split at hit <;> cases hit⟩
    split at hx
    · simp [Owner.finish, Proc.dispatchCopies, Proc.copies] at hx
    · simp only [Proc.dispatchCopies, Proc.copies, List.mem_singleton] at hx
      subst hx
      simp only [Service.buildNotification]
      omega
  | batchInsert i reqs hp =>
    have hid := Service.batchChildren_id_ge reqs s.store.nextBatchId s.store.nextId s.now
    obtain ⟨m, hm, -⟩ := h.row
    have hj : j < s.store.nextId := hc.store.lt_nextId hm
    refine (h.withStore (h.row.createBatch hc.store _ hid)).setProc ?_
    split
    · exact Proc.free_of_nil rfl rfl
    · rename_i x rest hf
      refine ⟨fun y hy => ?_, fun it hit => by cases hit⟩
      have hy : y ∈ x :: rest := hy
      rw [← hf] at hy
      have := hid y (List.mem_filter.mp hy).1
      omega
  | cancelWrite i id n hp =>
    exact (h.withStore (h.row.cancel id s.now)).setProc (Proc.free_of_nil rfl rfl)
  | offerOk i o n rest q hp hq =>
    have hn := h.copy hp (List.mem_cons_self _ _)
    refine ⟨h.row, fun p hp' => ?_, fun u it hit => ?_, h.sends⟩
    · rcases List.mem_or_eq_of_mem_set hp' with hp' | rfl
      exacts [h.procs p hp', ⟨(h.proc hp).1, fun _ h => by cases h⟩]
    · rcases PriorityQueue.enqueue_mem hq hit with rfl | hit
      exacts [hn, h.queued u it hit]
  | offerRefused i o n rest e hp | markFail i o n rest e hp => exact h.setProc (h.next hp n)
  | markOk i o n rest hp hcan =>
    exact (h.withStore (h.row.update_of_ne (h.copy hp (List.mem_cons_self _ _)) _ _)).setProc
      (h.next hp _)
  | dequeueHigh i it q hp hq | receive i t it q hp hq =>
    have hr := PriorityQueue.receive_mem hq
    refine ⟨h.row, fun p hp' => ?_, fun u it' hit => h.queued u it' (hr.2 u it' hit), h.sends⟩
    rcases List.mem_or_eq_of_mem_set hp' with hp' | rfl
    exacts [h.procs p hp', ⟨fun m hm => (by cases hm), fun it' hit => (by cases hit; exact h.queued _ _ hr.1)⟩]
  | fetchClaim i it n hp hcan hn hs =>
    have hid : n.id = it.notificationId := hc.store.ids _ n hn
    refine h.setProc ⟨fun m hm => ?_, fun _ h => by cases h⟩
    simp only [Proc.dispatchCopies, Proc.copies, List.mem_singleton] at hm
    subst hm
    rw [hid]
    exact (h.proc hp).2 it rfl
  | claim i n hp hcan =>
    exact (h.withStore (h.row.update_of_ne (h.copy hp (List.mem_singleton_self n)) _ _)).setProc
      ⟨(h.proc hp).1, fun _ h => by cases h⟩
  | limitGranted i n hp => exact h.setProc ⟨(h.proc hp).1, fun _ h => by cases h⟩
  | sendOk i n msgId hp | sendError i n err hp =>
    exact (h.send (h.copy hp (List.mem_singleton_self n))).setProc ⟨(h.proc hp).1, fun _ h => by cases h⟩
  | markSent i n msgId hp hcan =>
    have h' : s₀.Stranded ((s.withStore (s.store.markSent n.id msgId s.now s.now)).setProc i
        (.worker .dequeue)) j st :=
      (h.withStore (h.row.update_of_ne (h.copy hp (List.mem_singleton_self n)) _ _)).setProc
        (Proc.free_of_nil rfl rfl)
    split
    · exact h'.spawn (Proc.free_of_nil rfl rfl)
    · exact h'
  | settle i n err st' hp hcan hf =>
    have hn := h.copy hp (List.mem_singleton_self n)
    refine (h.withStore ?_).setProc (i := i) (Proc.free_of_nil (p := .worker .dequeue) rfl rfl)
    rcases Worker.handleFailure_some hf with ⟨-, rfl⟩ | ⟨-, d, -, rfl⟩ <;>
      exact h.row.update_of_ne hn _ _
  | batchWrite i b c t hp =>
    exact (h.withStore (show (s.store.writeBatchCounts b c t).Stuck j st from h.row)).setProc
      (Proc.free_of_nil (p := .returned .finished) rfl rfl)
  | poll i k found hp hcan hf =>
    refine h.setProc ⟨fun m hm hmj => ?_, fun it hit => by cases found <;> cases hit⟩
    have hm' : m ∈ found := by
      cases found <;> simp_all [Poller.enqueueAll, Proc.dispatchCopies, Proc.copies]
    obtain ⟨hrow, hdue⟩ := hf.mem hm'
    obtain ⟨n, hn, hs⟩ := h.row
    rw [← hmj, hc.store.mem_allRows hrow] at hn
    cases hn
    have hstat : m.status = .failed ∨ m.status = .scheduled := by
      cases k <;> simp only [PollKind.due, Store.dueRetry, Store.dueScheduled, Bool.and_eq_true,
        decide_eq_true_eq] at hdue
      exacts [.inl hdue.1.1, .inr hdue.1]
    rcases hstat with h' | h' <;> rcases hs with hs | hs <;> rw [hs] at h' <;>
      first | exact hst.2 h' | exact hst.1 h' | cases h'

/-- Along every run from a reachable state. -/
theorem exec (h : s₀.Stranded s j st) (hr : Reachable cfg s) (hst : st ≠ .scheduled ∧ st ≠ .failed)
    {as : List Action} {s' : Sys} (he : NotificationDispatch.exec cfg s as = some s') :
    s₀.Stranded s' j st := by
  induction as generalizing s with
  | nil => cases he; exact h
  | cons a as ih =>
    simp only [NotificationDispatch.exec, Option.bind_eq_some] at he
    obtain ⟨s₁, h₁, h₂⟩ := he
    exact ih (h.step (Sys.Coherent.of_reach hr) hst (step_moves h₁)) (.step hr trivial h₁) h₂

end Sys.Stranded

/-- A restart drops the queue and every goroutine. A row it leaves in a status no due query
selects (`pending`, `queued`, `processing`, `sent` or `cancelled`) is never sent again, and only
`Cancel` still changes its status. -/
theorem restart_strands_unpolled_rows {cfg : Config} {s s₁ s' : Sys} {as : List Action}
    (hr : Reachable cfg s) (hs : step cfg s .restart = some s₁) {j : Nat} {n : Notification}
    (hn : s₁.store.rows j = some n) (hst : n.status ≠ .scheduled ∧ n.status ≠ .failed)
    (he : exec cfg s₁ as = some s') :
    (∃ n', s'.store.rows j = some n' ∧ (n'.status = n.status ∨ n'.status = .cancelled)) ∧
      ∃ new, s'.sendLog = s₁.sendLog ++ new ∧ ∀ e ∈ new, e.1 ≠ j := by
  have h₁ : s₁.Stranded s₁ j n.status := by
    cases step_moves hs
    exact ⟨⟨n, hn, .inl rfl⟩, initProcs_free _ j, fun u it hit => (by cases u <;> cases hit),
      [], by simp, by simp⟩
  have h' := h₁.exec (.step hr trivial hs) hst he
  exact ⟨h'.row, h'.sends⟩

/-- `Create`'s row is `queued` when `main` shuts down; every worker then leaves `Run`. -/
def queuedAtShutdown : List Action :=
  [.create ⟨channelSMS, "+905551234567", "Hello", priorityNormal, none⟩ "", .step 17, .step 17,
    .step 17, .shutdown] ++ (List.range 15).flatMap fun i => [.step i, .stop i]

/-- The row `queuedAtShutdown` leaves. -/
def queuedRow : Notification :=
  { Service.buildNotification ⟨channelSMS, "+905551234567", "Hello", priorityNormal, none⟩ "" none 0 0
    with status := .queued }

/-- After the restart a worker asks the queue, and the clock runs on. -/
def afterRestart : List Action := [.step 0, .tick 100]

/-- The queued row outlives the restart, but its item does not: it is never sent. -/
theorem queued_row_lost_at_restart :
    Reachable Config.default (reached Config.default queuedAtShutdown) ∧
      step Config.default (reached Config.default queuedAtShutdown) .restart =
        some (reached Config.default (queuedAtShutdown ++ [.restart])) ∧
      (reached Config.default (queuedAtShutdown ++ [.restart])).store.rows 0 = some queuedRow ∧
      (queuedRow.status ≠ .scheduled ∧ queuedRow.status ≠ .failed) ∧
      exec Config.default (reached Config.default (queuedAtShutdown ++ [.restart])) afterRestart =
        some (reached Config.default (queuedAtShutdown ++ [.restart] ++ afterRestart)) ∧
      (∃ n', (reached Config.default (queuedAtShutdown ++ [.restart] ++ afterRestart)).store.rows 0 =
          some n' ∧ (n'.status = queuedRow.status ∨ n'.status = .cancelled)) ∧
      ∃ new, (reached Config.default (queuedAtShutdown ++ [.restart] ++ afterRestart)).sendLog =
          (reached Config.default (queuedAtShutdown ++ [.restart])).sendLog ++ new ∧
        ∀ e ∈ new, e.1 ≠ 0 :=
  have h₁ : (exec Config.default (Sys.init Config.default) queuedAtShutdown).isSome := by decide
  have h₂ : (exec Config.default (Sys.init Config.default) (queuedAtShutdown ++ [.restart])).isSome := by
    decide
  have h₃ : (exec Config.default (Sys.init Config.default)
      (queuedAtShutdown ++ [.restart] ++ afterRestart)).isSome := by decide
  have hs := step_reached h₁ h₂
  have hn : (reached Config.default (queuedAtShutdown ++ [.restart])).store.rows 0 = some queuedRow := by
    decide
  have hst : queuedRow.status ≠ .scheduled ∧ queuedRow.status ≠ .failed := by decide
  have he : exec Config.default (reached Config.default (queuedAtShutdown ++ [.restart])) afterRestart =
      some (reached Config.default (queuedAtShutdown ++ [.restart] ++ afterRestart)) := by
    rw [← exec_eq_reached h₃, exec_append, exec_eq_reached h₂, Option.some_bind]
  ⟨Reachable.reached h₁, hs, hn, hst, he, restart_strands_unpolled_rows (Reachable.reached h₁) hs hn hst he⟩

end NotificationDispatch
