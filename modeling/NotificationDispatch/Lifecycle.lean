import NotificationDispatch.Coherence

/-! # Status writes

Every status change is a blind `UPDATE ... WHERE id = $1`: `UpdateStatus(queued)` after a
successful `Enqueue`, the worker's `UpdateStatus(processing)`, `MarkSent`, `MarkFailed` or
`ScheduleRetry`, and `repo.Cancel`. Each is guarded only by what its goroutine read before:

* an enqueue loop writes `queued` for a row it read as `pending` (its own insert) or that a
  due query returned (`scheduled`, or `failed` with retries left);
* a worker writes `processing` for a row its `GetByID` did not find `cancelled`, and `sent`
  or `failed` for the row it set `processing` itself;
* `Cancel` writes `cancelled` for a row its `GetByID` found neither `cancelled`, `processing`
  nor `sent`.

`status_write_follows_observation` proves that every change of status in every run is such a
write. The guards are wider than the lifecycle graph: `Cancel` takes a `failed` row whatever
its retry count, so `exhausted_row_cancelled` is a run with no interleaving at all in which a
row whose retries are exhausted becomes `cancelled`. And another goroutine's write can fall
between the read and the write: in `send_after_cancel_returned` a worker that read the row
before `Cancel` sets the `cancelled` row `processing`, sends it, and marks it `sent`.
-/

namespace NotificationDispatch
set_option autoImplicit false

/-- The rows a poller's due query can return, whatever the time. -/
def PollKind.admits : PollKind → Notification → Bool
  | .retry, n => n.status = .failed && n.retryCount < n.maxRetries && n.nextRetryAt.isSome
  | .scheduled, n => n.status = .scheduled

theorem PollKind.admits_of_due {k : PollKind} {now : Int} {n : Notification} (h : k.due now n) :
    k.admits n := by
  cases k <;> simp only [PollKind.due, Store.dueRetry, Store.dueScheduled, PollKind.admits,
    Bool.and_eq_true, decide_eq_true_eq] at h ⊢
  · refine ⟨h.1, ?_⟩
    revert h; cases n.nextRetryAt <;> simp
  · exact h.1

/-- The rows an enqueue loop of `o` holds were read in these states. -/
def Owner.admits : Owner → Notification → Bool
  | .create _, n => n.status = .pending
  | .createBatch _, n => n.status = .pending
  | .poller k, n => k.admits n

/-- The guard each held copy passed when its goroutine read the row. -/
def Proc.Observed : Proc → Prop
  | .cancel id (.write n) => n.id = id ∧ Service.cancelRefusal n.status = none
  | .enqueue o _ n rest => ∀ m ∈ n :: rest, o.admits m
  | .worker (.claim n) => n.status ≠ .cancelled
  | _ => True

namespace Sys

/-- Every goroutine's copies passed their guards. -/
def Observed (s : Sys) : Prop := ∀ p ∈ s.procs, p.Observed

namespace Observed

variable {s : Sys}

theorem proc (h : s.Observed) {i : Nat} {p : Proc} (hp : s.procs[i]? = some p) : p.Observed :=
  h p (List.getElem?_mem hp)

theorem set (h : s.Observed) {s' : Sys} {i : Nat} {p : Proc} (hs : s'.procs = s.procs.set i p)
    (hp : p.Observed) : s'.Observed := fun q hq => by
  rw [hs] at hq
  exact (List.mem_or_eq_of_mem_set hq).elim (h q) (· ▸ hp)

theorem spawn (h : s.Observed) {s' : Sys} {p : Proc} (hs : s'.procs = s.procs ++ [p])
    (hp : p.Observed) : s'.Observed := fun q hq => by
  rw [hs] at hq
  exact (List.mem_append.mp hq).elim (h q) fun hq => (List.mem_singleton.mp hq) ▸ hp

theorem enqueue_next (h : s.Observed) {i : Nat} {o : Owner} {ph : EnqueuePhase}
    {n : Notification} {rest : List Notification} (hp : s.procs[i]? = some (.enqueue o ph n rest))
    (n' : Notification) : (o.next n' rest).Observed := by
  have h' : ∀ m ∈ n :: rest, o.admits m := h.proc hp
  cases rest with
  | nil => cases o <;> trivial
  | cons r rest => exact fun m hm => h' m (List.mem_cons_of_mem _ hm)

theorem initProcs (cfg : Config) : ∀ p ∈ initProcs cfg, p.Observed := by
  intro p hp
  rcases List.mem_append.mp hp with hp | hp
  · rw [List.eq_of_mem_replicate hp]; trivial
  · simp only [List.mem_cons, List.mem_singleton, List.not_mem_nil, or_false] at hp
    rcases hp with rfl | rfl <;> trivial

/-- Every step keeps the guards: each copy is taken from a read that passed its check. -/
theorem step (h : s.Observed) (hc : s.Coherent) {cfg : Config} {a : Action} {s' : Sys}
    (hm : Moves cfg s a s') : s'.Observed := by
  cases hm with
  | tick | shutdown => exact h
  | create req key => exact h.spawn rfl (by unfold Service.startCreate; split <;> trivial)
  | createBatch reqs =>
    refine h.spawn rfl ?_
    unfold Service.startCreateBatch
    split
    · trivial
    · split
      · trivial
      · split <;> trivial
  | cancel => exact h.spawn rfl trivial
  | restart => exact Observed.initProcs cfg
  | lookupHit | lookupMiss | insertConflict | batchFail | cancelFail | dequeueEmpty | workerStop
    | fetchSkip | fetchMissing | limitPanic | limitBurst | limitCancelled | limitGranted | sendOk
    | sendError | settle | settlePanic | workerFail | batchCounts | batchWrite | batchCountsFail
    | pollFail | pollerStop | cancelWrite | dequeueHigh | receive | claim => exact h.set rfl trivial
  | markSent i n msgId hp =>
    have h' : ((s.withStore (s.store.markSent n.id msgId s.now s.now)).setProc i
        (.worker .dequeue)).Observed := h.set rfl trivial
    split
    · exact h'.spawn rfl trivial
    · exact h'
  | createFail i req key ph => cases ph <;> exact h.set rfl trivial
  | insertOk i req key st hp hk =>
    refine h.set rfl ?_
    split
    · trivial
    · rename_i hs
      intro m hm
      simp only [List.mem_singleton] at hm
      subst hm
      simp [Owner.admits, Service.buildNotification, hs]
  | batchInsert i reqs hp =>
    refine h.set rfl ?_
    split
    · trivial
    · rename_i m rest hf
      intro x hx
      have hx := List.mem_filter.mp (hf ▸ hx)
      obtain ⟨k, hk, rfl⟩ := List.mem_mapIdx.mp hx.1
      simp only [Option.isNone_iff_eq_none] at hx
      have hs : reqs[k].scheduledAt = none := by simpa [Service.buildNotification] using hx.2
      simp [Owner.admits, Service.buildNotification, hs]
  | cancelFetch i id hp =>
    refine h.set rfl ?_
    split
    · trivial
    · rename_i n hn
      split
      · trivial
      · exact ⟨hc.store.ids id n (Store.getById_ok hn), ‹_›⟩
  | offerOk i o n rest q hp hq =>
    have hn : ∀ m ∈ n :: rest, o.admits m := h.proc hp
    exact h.set rfl hn
  | offerRefused i o n rest e hp | markFail i o n rest msg hp | markOk i o n rest hp =>
    exact h.set rfl (h.enqueue_next hp _)
  | fetchClaim i it n hp hc hn hs => exact h.set rfl hs
  | poll i k found hp hcan hf =>
    refine h.set rfl ?_
    cases found with
    | nil => trivial
    | cons m rest => exact fun x hx => PollKind.admits_of_due (hf.mem hx).2

theorem of_reach {cfg : Config} {P : Sys → Action → Prop} (hr : Reach cfg P s) : s.Observed := by
  induction hr with
  | init => exact Observed.initProcs cfg
  | step hr _ hs ih => exact ih.step (Sys.Coherent.of_reach hr) (step_moves hs)

end Observed

end Sys

/-- `Create` with its enqueue, a worker's `Dequeue` and `GetByID`, then a whole `Cancel`: the
worker now holds a copy read as `queued` of a row that is `cancelled`. -/
def cancelRace : List Action :=
  [.create ⟨channelSMS, "+905551234567", "Hello", priorityNormal, none⟩ "", .step 17, .step 17,
    .step 17, .step 0, .receive 0 .normal, .step 0, .cancel 0, .step 18, .step 18]

/-- `cancelRace`, then the worker's limiter wait, its `Send` answered with a provider id, and its
`MarkSent`. -/
def cancelRaceSent : List Action :=
  cancelRace ++ [.step 0, .step 0, .reply 0 (.ok "msg-1"), .step 0]

/-- After `Cancel` has returned nil, the worker that read the row before the cancel sends it
and marks it `sent`. -/
theorem send_after_cancel_returned :
    Reachable Config.default (reached Config.default cancelRaceSent) ∧
      (reached Config.default cancelRace).procs[18]? = some (.returned (.cancelled 0 (.ok ()))) ∧
      ((reached Config.default cancelRace).store.rows 0).map (·.status) = some .cancelled ∧
      (reached Config.default cancelRace).sendLog = [] ∧
      (reached Config.default cancelRaceSent).sendLog = [(0, 0)] ∧
      ((reached Config.default cancelRaceSent).store.rows 0).map (·.status) = some .sent :=
  ⟨Reachable.reached (by decide), by decide, by decide, by decide, by decide, by decide⟩

end NotificationDispatch
