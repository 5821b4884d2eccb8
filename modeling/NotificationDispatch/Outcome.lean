import NotificationDispatch.Moves

/-! # What a row's status says about its delivery

`MarkSent` is the only statement that writes `sent`, and it writes `provider_msg_id` and
`sent_at` and clears `error_message` with it; `MarkFailed` and `ScheduleRetry`, the only ones
that write `failed`, write `error_message` with it; every other status write leaves these columns
alone and writes a status that claims nothing about them. A worker reaches `MarkSent` only after
the provider's `Send` returned a message id. So in every reachable state a `sent` row carries a
message id and no error, and the provider was called for it before its `sent_at`; a `failed` row
carries the error that failed it (`row_status_matches_delivery`).
-/

namespace NotificationDispatch
set_option autoImplicit false

/-- Row `j`'s outcome columns agree with its status, given the `Send`s recorded in `log`. -/
def Notification.Truthful (log : List (Nat × Int)) (j : Nat) (n : Notification) : Prop :=
  (n.status = .sent → n.providerMsgId.isSome ∧ n.errorMessage = none ∧
    ∃ t, n.sentAt = some t ∧ ∃ e ∈ log, e.1 = j ∧ e.2 ≤ t) ∧
  (n.status = .failed → n.errorMessage.isSome)

namespace Notification

variable {log : List (Nat × Int)} {j : Nat}

/-- A status other than `sent` and `failed` claims nothing. -/
theorem truthful_of_status {n : Notification} (hs : n.status ≠ .sent) (hf : n.status ≠ .failed) :
    n.Truthful log j :=
  ⟨fun h => absurd h hs, fun h => absurd h hf⟩

theorem Truthful.mono {n : Notification} (h : n.Truthful log j) (new : List (Nat × Int)) :
    n.Truthful (log ++ new) j := by
  refine ⟨fun hs => ?_, h.2⟩
  obtain ⟨hm, he, t, ht, e, hl, hj, hle⟩ := h.1 hs
  exact ⟨hm, he, t, ht, e, List.mem_append_left _ hl, hj, hle⟩

theorem Truthful.stamp {n : Notification} (h : n.Truthful log j) (now : Int) :
    { n with updatedAt := now }.Truthful log j := h

end Notification

/-- Every row of `st` agrees with its status. -/
def Store.Truthful (st : Store) (log : List (Nat × Int)) : Prop :=
  ∀ j n, st.rows j = some n → n.Truthful log j

namespace Store

variable {st : Store} {log : List (Nat × Int)}

theorem Truthful.mono (h : st.Truthful log) (new : List (Nat × Int)) : st.Truthful (log ++ new) :=
  fun j n hn => (h j n hn).mono new

/-- An `UPDATE` of row `id` keeps the rows truthful when its write does. -/
theorem Truthful.update (h : st.Truthful log) {id : Nat} {f : Notification → Notification}
    (hf : ∀ n, st.rows id = some n → (f n).Truthful log id) (now : Int) :
    (st.update id f now).Truthful log := by
  intro j m hm
  obtain ⟨n, hn, ⟨rfl, rfl⟩ | rfl⟩ := update_rows_some hm
  exacts [(hf n hn).stamp now, h j m hn]

/-- A write of a status other than `sent` and `failed`. -/
theorem Truthful.updateStatus (h : st.Truthful log) (id : Nat) {status : Status}
    (hs : status ≠ .sent) (hf : status ≠ .failed) (now : Int) :
    (st.updateStatus id status now).Truthful log :=
  h.update (fun _ _ => Notification.truthful_of_status hs hf) now

theorem Truthful.cancel (h : st.Truthful log) (id : Nat) (now : Int) :
    (st.cancel id now).Truthful log :=
  h.updateStatus id (by decide) (by decide) now

theorem Truthful.markFailed (h : st.Truthful log) (id : Nat) (err : String) (now : Int) :
    (st.markFailed id err now).Truthful log := by
  unfold Store.markFailed
  refine h.update (fun _ _ => ?_) now
  exact ⟨fun hs => (by cases hs), fun _ => rfl⟩

theorem Truthful.scheduleRetry (h : st.Truthful log) (id k : Nat) (nextRetry : Int) (err : String)
    (now : Int) : (st.scheduleRetry id k nextRetry err now).Truthful log := by
  unfold Store.scheduleRetry
  refine h.update (fun _ _ => ?_) now
  exact ⟨fun hs => (by cases hs), fun _ => rfl⟩

/-- `MarkSent` of a row whose `Send` was recorded by `sentAt`. -/
theorem Truthful.markSent (h : st.Truthful log) {id : Nat} {msgId : String} {sentAt : Int}
    (hl : ∃ e ∈ log, e.1 = id ∧ e.2 ≤ sentAt) (now : Int) :
    (st.markSent id msgId sentAt now).Truthful log := by
  unfold Store.markSent
  refine h.update (fun _ _ => ?_) now
  exact ⟨fun _ => ⟨rfl, rfl, sentAt, rfl, hl⟩, fun hf => (by cases hf)⟩

/-- New rows are `pending` or `scheduled`. -/
theorem Truthful.insert (h : st.Truthful log) {n : Notification} (hs : n.status ≠ .sent)
    (hf : n.status ≠ .failed) : (st.insert n).Truthful log := by
  intro j m hm
  rcases insert_rows_some hm with ⟨-, rfl⟩ | hm
  exacts [Notification.truthful_of_status hs hf, h j m hm]

theorem Truthful.createBatch (h : st.Truthful log) (b : Batch) {ns : List Notification}
    (hns : ∀ m ∈ ns, m.status ≠ .sent ∧ m.status ≠ .failed) : (st.createBatch b ns).Truthful log := by
  intro j m hm
  rcases createBatch_rows_some hm with hm' | hm'
  exacts [Notification.truthful_of_status (hns m hm').1 (hns m hm').2, h j m hm']

end Store

theorem Service.buildNotification_unsent (req : CreateNotificationRequest) (key : String)
    (b : Option Nat) (id : Nat) (now : Int) :
    (buildNotification req key b id now).status ≠ .sent ∧
      (buildNotification req key b id now).status ≠ .failed := by
  simp only [buildNotification]
  split <;> decide

/-- The row a worker is about to mark `sent`. -/
def Proc.marking : Proc → Option Notification
  | .worker (.markSent n _) => some n
  | _ => none

/-- Rows agree with their statuses, and every worker about to `MarkSent` a row has had the
provider's `Send` of it recorded. -/
structure Sys.Truthful (s : Sys) : Prop where
  store : s.store.Truthful s.sendLog
  procs : ∀ p ∈ s.procs, ∀ n, p.marking = some n → ∃ e ∈ s.sendLog, e.1 = n.id ∧ e.2 ≤ s.now

namespace Sys.Truthful

variable {s : Sys}

theorem setProc (h : s.Truthful) {i : Nat} {p : Proc} (hp : p.marking = none) :
    (s.setProc i p).Truthful :=
  ⟨h.store, fun q hq n hn => (List.mem_or_eq_of_mem_set hq).elim (fun hq => h.procs q hq n hn)
    fun e => by rw [e, hp] at hn; cases hn⟩

theorem spawn (h : s.Truthful) {p : Proc} (hp : p.marking = none) : (s.spawn p).Truthful :=
  ⟨h.store, fun q hq n hn => (List.mem_append.mp hq).elim (fun hq => h.procs q hq n hn)
    fun hq => by rw [List.mem_singleton.mp hq, hp] at hn; cases hn⟩

theorem withStore (h : s.Truthful) {st : Store} (hs : st.Truthful s.sendLog) :
    (s.withStore st).Truthful :=
  ⟨hs, h.procs⟩

theorem withQueue (h : s.Truthful) (q : PriorityQueue) : (s.withQueue q).Truthful :=
  ⟨h.store, h.procs⟩

/-- The provider's `Send` of `n`, recorded now. -/
theorem send (h : s.Truthful) (n : Notification) :
    { s with sendLog := s.sendLog ++ [(n.id, s.now)] }.Truthful :=
  ⟨h.store.mono _, fun p hp m hm => by
    obtain ⟨e, he, hid, hle⟩ := h.procs p hp m hm
    exact ⟨e, List.mem_append_left _ he, hid, hle⟩⟩

theorem init (cfg : Config) : (Sys.init cfg).Truthful := by
  refine ⟨fun _ _ h => (nomatch h), fun p hp n hn => ?_⟩
  rcases List.mem_append.mp hp with hp | hp
  · rw [List.eq_of_mem_replicate hp] at hn; cases hn
  · simp only [List.mem_cons, List.mem_singleton, List.not_mem_nil, or_false] at hp
    rcases hp with rfl | rfl <;> cases hn

/-- Every step keeps the statuses truthful. -/
theorem step (h : s.Truthful) {cfg : Config} {a : Action} {s' : Sys} (hm : Moves cfg s a s') :
    s'.Truthful := by
  cases hm with
  | tick t hle =>
    exact ⟨h.store, fun p hp n hn => by
      obtain ⟨e, he, hid, hl⟩ := h.procs p hp n hn
      exact ⟨e, he, hid, by dsimp only; omega⟩⟩
  | shutdown => exact ⟨h.store, h.procs⟩
  | restart =>
    refine ⟨h.store, fun p hp n hn => ?_⟩
    rcases List.mem_append.mp hp with hp | hp
    · rw [List.eq_of_mem_replicate hp] at hn; cases hn
    · simp only [List.mem_cons, List.mem_singleton, List.not_mem_nil, or_false] at hp
      rcases hp with rfl | rfl <;> cases hn
  | create req key => exact h.spawn (by unfold Service.startCreate; split <;> rfl)
  | createBatch reqs => exact h.spawn (by (unfold Service.startCreateBatch; repeat' split) <;> rfl)
  | cancel => exact h.spawn rfl
  | lookupHit | lookupMiss | insertConflict | batchFail | cancelFail | dequeueEmpty | workerStop
    | fetchClaim | fetchSkip | fetchMissing | limitPanic | limitBurst | limitCancelled
    | limitGranted | settlePanic | workerFail | batchCounts | batchCountsFail | pollFail | pollerStop
    | cancelFetch =>
    exact h.setProc (by first | rfl | (split <;> first | rfl | (split <;> rfl)))
  | dequeueHigh i it q | receive i t it q | offerOk i o n rest q => exact (h.withQueue q).setProc rfl
  | offerRefused i o n rest e hp | markFail i o n rest e hp =>
    exact h.setProc (by cases rest <;> (try cases o) <;> rfl)
  | createFail i req key ph => cases ph <;> exact h.setProc rfl
  | insertOk i req key st hp hk =>
    obtain ⟨rfl, -⟩ := Store.create_ok hk
    obtain ⟨hs, hf⟩ := Service.buildNotification_unsent req key none s.store.nextId s.now
    exact (h.withStore (h.store.insert hs hf)).setProc (by split <;> rfl)
  | batchInsert i reqs hp =>
    have hns : ∀ m ∈ Service.batchChildren reqs s.store.nextBatchId s.store.nextId s.now,
        m.status ≠ .sent ∧ m.status ≠ .failed := by
      intro m hm
      obtain ⟨k, hk, rfl⟩ := List.mem_mapIdx.mp hm
      exact Service.buildNotification_unsent _ _ _ _ _
    exact (h.withStore (h.store.createBatch _ hns)).setProc (by split <;> rfl)
  | cancelWrite i id n hp => exact (h.withStore (h.store.cancel id s.now)).setProc rfl
  | markOk i o n rest hp hc =>
    exact (h.withStore (h.store.updateStatus n.id (by decide) (by decide) s.now)).setProc
      (by cases rest <;> (try cases o) <;> rfl)
  | claim i n hp hc =>
    exact (h.withStore (h.store.updateStatus n.id (by decide) (by decide) s.now)).setProc rfl
  | sendOk i n msgId hp hc =>
    refine ⟨(h.send n).store, fun p hp' m hm => ?_⟩
    rcases List.mem_or_eq_of_mem_set hp' with hp' | rfl
    · exact (h.send n).procs p hp' m hm
    · simp only [Proc.marking, Option.some.injEq] at hm
      subst hm
      exact ⟨(n.id, s.now), List.mem_append_right _ (List.mem_singleton_self _), rfl,
        Int.le_refl s.now⟩
  | sendError i n err hp => exact (h.send n).setProc rfl
  | markSent i n msgId hp hc =>
    have hl := h.procs _ (List.getElem?_mem hp) n rfl
    have h' : ((s.withStore (s.store.markSent n.id msgId s.now s.now)).setProc i
        (.worker .dequeue)).Truthful :=
      (h.withStore (h.store.markSent hl s.now)).setProc rfl
    split
    · exact h'.spawn rfl
    · exact h'
  | settle i n err st hp hc hf =>
    refine (h.withStore ?_).setProc (i := i) (p := .worker .dequeue) rfl
    rcases Worker.handleFailure_some hf with ⟨-, rfl⟩ | ⟨-, d, -, rfl⟩
    exacts [h.store.markFailed _ _ _, h.store.scheduleRetry _ _ _ _ _]
  | batchWrite i b c t hp =>
    exact (h.withStore (show (s.store.writeBatchCounts b c t).Truthful s.sendLog from h.store)).setProc
      (p := .returned .finished) rfl
  | poll i k found hp hc hf =>
    exact h.setProc (by cases found <;> rfl)

theorem of_reachable {cfg : Config} (hr : Reachable cfg s) : s.Truthful := by
  induction hr with
  | init => exact init cfg
  | step _ _ hs ih => exact ih.step (step_moves hs)

end Sys.Truthful

/-- In every reachable state a `sent` row carries the provider's message id and no error, and
the provider's `Send` of it was made at or before its `sent_at`; a `failed` row carries an error
message. -/
theorem row_status_matches_delivery {cfg : Config} {s : Sys} (hr : Reachable cfg s) {j : Nat}
    {n : Notification} (hn : s.store.rows j = some n) :
    (n.status = .sent → n.providerMsgId.isSome ∧ n.errorMessage = none ∧
      ∃ t, n.sentAt = some t ∧ ∃ e ∈ s.sendLog, e.1 = j ∧ e.2 ≤ t) ∧
    (n.status = .failed → n.errorMessage.isSome) :=
  (Sys.Truthful.of_reachable hr).store j n hn

/-- `Create`, then worker 0 delivers the row: `Dequeue`, `GetByID`, `processing`, the limiter,
`Send`, whose reply is the message id `msg-1`, and `MarkSent`. -/
def deliveredRun : List Action :=
  [.create ⟨channelSMS, "+905551234567", "Hello", priorityNormal, none⟩ "", .step 17, .step 17,
    .step 17, .step 0, .receive 0 .normal, .step 0, .step 0, .step 0, .reply 0 (.ok "msg-1"), .step 0]

/-- The row `deliveredRun` leaves. -/
def deliveredRow : Notification :=
  { Service.buildNotification ⟨channelSMS, "+905551234567", "Hello", priorityNormal, none⟩ "" none 0 0
    with status := .sent, providerMsgId := some "msg-1", sentAt := some 0 }

/-- The delivered row is `sent` with the provider's message id, and its `Send` is on record. -/
theorem delivered_row_carries_its_send :
    Reachable Config.default (reached Config.default deliveredRun) ∧
      (reached Config.default deliveredRun).store.rows 0 = some deliveredRow ∧
      (deliveredRow.status = .sent → deliveredRow.providerMsgId.isSome ∧
        deliveredRow.errorMessage = none ∧ ∃ t, deliveredRow.sentAt = some t ∧
          ∃ e ∈ (reached Config.default deliveredRun).sendLog, e.1 = 0 ∧ e.2 ≤ t) ∧
      (deliveredRow.status = .failed → deliveredRow.errorMessage.isSome) :=
  have hr : Reachable Config.default (reached Config.default deliveredRun) := Reachable.reached (by decide)
  have hn : (reached Config.default deliveredRun).store.rows 0 = some deliveredRow := by decide
  ⟨hr, hn, row_status_matches_delivery hr hn⟩

end NotificationDispatch
