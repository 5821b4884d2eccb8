import NotificationDispatch.Moves

/-! # Channels and priorities stay known

Every path that creates a row runs `Validate` first (`Create` before its lookup, `CreateBatch`
on every item before the transaction), no statement changes `channel` or `priority`, and
every queue item and every copy a goroutine holds is read from a row. So `Sys.WellFormed`
(every row, queued item and held copy has a known channel and priority) holds in every
reachable state. Hence:

* no worker calls `ChannelLimiters.Wait` for a channel without a limiter, which would
  dereference nil in the worker's goroutine;
* no enqueue loop's `Enqueue` takes the `unknown priority` branch.
-/

namespace NotificationDispatch
set_option autoImplicit false

def Notification.wellFormed (n : Notification) : Bool := n.channel.isValid && n.priority.isValid

def Item.wellFormed (it : Item) : Bool := it.channel.isValid && it.priority.isValid

/-- What a goroutine holds is well formed; a request it has yet to insert passed `Validate`. -/
def Proc.WellFormed : Proc → Prop
  | .create req _ _ => req.validate = .ok ()
  | .createBatch reqs => ∀ r ∈ reqs, r.validate = .ok ()
  | .enqueue _ _ n rest => n.wellFormed ∧ ∀ m ∈ rest, m.wellFormed
  | .worker (.fetch it) => it.wellFormed
  | .worker (.claim n) => n.wellFormed
  | .worker (.limit n) => n.wellFormed
  | .worker (.send n) => n.wellFormed
  | .worker (.markSent n _) => n.wellFormed
  | .worker (.handleFailure n _) => n.wellFormed
  | _ => True

structure Sys.WellFormed (s : Sys) : Prop where
  rows : ∀ j n, s.store.rows j = some n → n.wellFormed
  queue : ∀ t, ∀ it ∈ s.queue.buffer t, it.wellFormed
  procs : ∀ p ∈ s.procs, p.WellFormed

/-! ## Local facts -/

theorem Notification.item_wellFormed {n : Notification} (h : n.wellFormed) : n.item.wellFormed := h

theorem buildNotification_wellFormed {req : CreateNotificationRequest} (h : req.validate = .ok ())
    (key : String) (b : Option Nat) (id : Nat) (now : Int) :
    (Service.buildNotification req key b id now).wellFormed := by
  obtain ⟨hc, hp⟩ := CreateNotificationRequest.valid_of_validate h
  simp [Notification.wellFormed, Service.buildNotification, hc, hp]

theorem startCreate_wellFormed (req : CreateNotificationRequest) (key : String) :
    (Service.startCreate req key).WellFormed := by
  unfold Service.startCreate
  split <;> simp_all [Proc.WellFormed]

theorem firstInvalid_none {reqs : List CreateNotificationRequest} {k : Nat}
    (h : Service.firstInvalid reqs k = none) : ∀ r ∈ reqs, r.validate = .ok () := by
  induction reqs generalizing k with
  | nil => simp
  | cons r rs ih =>
    simp only [Service.firstInvalid] at h
    split at h
    · cases h
    · rename_i hr
      intro r' hr'
      rcases List.mem_cons.mp hr' with rfl | hr'
      · exact hr
      · exact ih h r' hr'

theorem startCreateBatch_wellFormed (reqs : List CreateNotificationRequest) :
    (Service.startCreateBatch reqs).WellFormed := by
  unfold Service.startCreateBatch
  split
  · trivial
  · split
    · trivial
    · split
      · trivial
      · exact firstInvalid_none ‹_›

theorem batchChildren_wellFormed {reqs : List CreateNotificationRequest}
    (h : ∀ r ∈ reqs, r.validate = .ok ()) (b firstId : Nat) (now : Int) :
    ∀ m ∈ Service.batchChildren reqs b firstId now, m.wellFormed := by
  intro m hm
  obtain ⟨k, hk, rfl⟩ := List.mem_mapIdx.mp hm
  exact buildNotification_wellFormed (h _ (List.getElem_mem hk)) _ _ _ _

theorem Owner.next_wellFormed (o : Owner) {n : Notification} {rest : List Notification}
    (hrest : ∀ m ∈ rest, m.wellFormed) : (o.next n rest).WellFormed := by
  cases rest with
  | nil => cases o <;> trivial
  | cons m rest =>
    exact ⟨hrest m (List.mem_cons_self _ _), fun m' hm => hrest m' (List.mem_cons_of_mem _ hm)⟩

/-! ## The invariant -/

namespace Sys.WellFormed

variable {s : Sys}

theorem setProc (h : s.WellFormed) {i : Nat} {p : Proc} (hp : p.WellFormed) :
    (s.setProc i p).WellFormed :=
  ⟨h.rows, h.queue, fun q hq => (List.mem_or_eq_of_mem_set hq).elim (h.procs q) (· ▸ hp)⟩

theorem spawn (h : s.WellFormed) {p : Proc} (hp : p.WellFormed) : (s.spawn p).WellFormed :=
  ⟨h.rows, h.queue, fun q hq => by
    rcases List.mem_append.mp hq with hq | hq
    · exact h.procs q hq
    · rw [List.mem_singleton.mp hq]; exact hp⟩

theorem withStore (h : s.WellFormed) {st : Store} (hst : ∀ j n, st.rows j = some n → n.wellFormed) :
    (s.withStore st).WellFormed :=
  ⟨hst, h.queue, h.procs⟩

theorem withQueue (h : s.WellFormed) {q : PriorityQueue}
    (hq : ∀ t, ∀ it ∈ q.buffer t, it.wellFormed) : (s.withQueue q).WellFormed :=
  ⟨h.rows, hq, h.procs⟩

theorem proc (h : s.WellFormed) {i : Nat} {p : Proc} (hp : s.procs[i]? = some p) : p.WellFormed :=
  h.procs p (List.getElem?_mem hp)

/-- A row is read back well formed. -/
theorem row (h : s.WellFormed) {j : Nat} {n : Notification} (hn : s.store.rows j = some n) :
    n.wellFormed :=
  h.rows j n hn

/-- Every `UPDATE` keeps `channel` and `priority`. -/
theorem update (h : s.WellFormed) (id : Nat) (f : Notification → Notification) (now : Int)
    (hf : ∀ n, (f n).channel = n.channel ∧ (f n).priority = n.priority) :
    ∀ j n, (s.store.update id f now).rows j = some n → n.wellFormed := by
  intro j m hm
  obtain ⟨n, hn, ⟨-, rfl⟩ | rfl⟩ := Store.update_rows_some hm
  · have := h.rows j n hn
    simp only [Notification.wellFormed] at this ⊢
    rw [(hf n).1, (hf n).2]; exact this
  · exact h.rows j _ hn

theorem receive (h : s.WellFormed) {t : Tier} {it : Item} {q : PriorityQueue}
    (hq : s.queue.receive t = some (it, q)) :
    it.wellFormed ∧ ∀ u, ∀ it' ∈ q.buffer u, it'.wellFormed :=
  let hr := PriorityQueue.receive_mem hq
  ⟨h.queue t it hr.1, fun u it' hit => h.queue u it' (hr.2 u it' hit)⟩

theorem updateStatus (h : s.WellFormed) (id : Nat) (status : Status) (now : Int) :
    ∀ j n, (s.store.updateStatus id status now).rows j = some n → n.wellFormed :=
  h.update id (fun n => { n with status := status }) now fun _ => ⟨rfl, rfl⟩

theorem cancel (h : s.WellFormed) (id : Nat) (now : Int) :
    ∀ j n, (s.store.cancel id now).rows j = some n → n.wellFormed :=
  h.updateStatus id .cancelled now

theorem handleFailure (h : s.WellFormed) {backoff : List Int} {n : Notification} {err : String}
    {now : Int} {st : Store} (hf : Worker.handleFailure backoff s.store n err now = some st) :
    ∀ j m, st.rows j = some m → m.wellFormed := by
  rcases Worker.handleFailure_some hf with ⟨-, rfl⟩ | ⟨-, d, -, rfl⟩ <;>
    exact h.update _ _ _ fun _ => ⟨rfl, rfl⟩

theorem init (cfg : Config) : (Sys.init cfg).WellFormed := by
  refine ⟨fun _ _ h => (nomatch h), fun t it h => (by cases t <;> cases h), fun p hp => ?_⟩
  rcases List.mem_append.mp hp with hp | hp
  · rw [List.eq_of_mem_replicate hp]; trivial
  · simp only [List.mem_cons, List.mem_singleton, List.not_mem_nil, or_false] at hp
    rcases hp with rfl | rfl <;> trivial

/-- Every step keeps the invariant. -/
theorem step (h : s.WellFormed) {cfg : Config} {a : Action} {s' : Sys} (hm : Moves cfg s a s') :
    s'.WellFormed := by
  cases hm with
  | tick | shutdown => exact ⟨h.rows, h.queue, h.procs⟩
  | create req key => exact h.spawn (startCreate_wellFormed req key)
  | createBatch reqs => exact h.spawn (startCreateBatch_wellFormed reqs)
  | cancel => exact h.spawn trivial
  | restart =>
    refine ⟨h.rows, fun t it hit => (by cases t <;> cases hit), fun p hp => ?_⟩
    exact (Sys.WellFormed.init cfg).procs p hp
  | lookupHit | insertConflict | batchFail | cancelFail | dequeueEmpty | workerStop | fetchSkip
    | fetchMissing | limitPanic | limitBurst | limitCancelled | settlePanic | workerFail
    | batchCounts | batchCountsFail | pollFail | pollerStop => exact h.setProc trivial
  | lookupMiss i req key e hp =>
    have hv : req.validate = .ok () := h.proc hp
    exact h.setProc hv
  | insertOk i req key st hp hk =>
    have hv : req.validate = .ok () := h.proc hp
    refine (h.withStore fun j m hm => ?_).setProc ?_
    · rw [(Store.create_ok hk).1] at hm
      rcases Store.insert_rows_some hm with ⟨-, rfl⟩ | hm
      · exact buildNotification_wellFormed hv _ _ _ _
      · exact h.row hm
    · split
      · trivial
      · exact ⟨buildNotification_wellFormed hv _ _ _ _, fun _ h => nomatch h⟩
  | createFail i req key ph => cases ph <;> exact h.setProc trivial
  | batchInsert i reqs hp =>
    have hc := batchChildren_wellFormed (h.proc hp) s.store.nextBatchId s.store.nextId s.now
    refine (h.withStore fun j m hm => ?_).setProc ?_
    · rcases Store.createBatch_rows_some hm with hm | hm
      exacts [hc m hm, h.row hm]
    · split
      · trivial
      · rename_i m rest hf
        have hsub : ∀ x ∈ m :: rest, x.wellFormed := fun x hx =>
          hc x (List.mem_of_mem_filter (hf ▸ hx))
        exact ⟨hsub m (List.mem_cons_self _ _), fun x hx => hsub x (List.mem_cons_of_mem _ hx)⟩
  | cancelFetch i id hp =>
    refine h.setProc ?_
    split
    · trivial
    · split <;> trivial
  | cancelWrite i id n hp => exact (h.withStore (h.cancel id s.now)).setProc trivial
  | offerOk i o n rest q hp hq =>
    have hp' := h.proc hp
    refine (h.withQueue fun t it hit => ?_).setProc hp'
    rcases PriorityQueue.enqueue_mem hq hit with rfl | hit
    exacts [Notification.item_wellFormed hp'.1, h.queue t it hit]
  | offerRefused i o n rest e hp => exact h.setProc (o.next_wellFormed (h.proc hp).2)
  | markOk i o n rest hp =>
    exact (h.withStore (h.updateStatus n.id .queued s.now)).setProc (o.next_wellFormed (h.proc hp).2)
  | markFail i o n rest msg hp => exact h.setProc (o.next_wellFormed (h.proc hp).2)
  | dequeueHigh i it q hp hq | receive i t it q hp hq =>
    have hr := h.receive hq
    exact (h.withQueue hr.2).setProc hr.1
  | fetchClaim i it n hp hc hn => exact h.setProc (h.row hn)
  | claim i n hp =>
    have hn : n.wellFormed := h.proc hp
    exact (h.withStore (h.updateStatus n.id .processing s.now)).setProc hn
  | limitGranted i n hp | sendOk i n msgId hp | sendError i n err hp =>
    have hn : n.wellFormed := h.proc hp
    exact Sys.WellFormed.setProc (by exact ⟨h.rows, h.queue, h.procs⟩) hn
  | markSent i n msgId hp =>
    have h' : ((s.withStore (s.store.markSent n.id msgId s.now s.now)).setProc i
        (.worker .dequeue)).WellFormed :=
      (h.withStore (by exact h.update _ _ _ fun _ => ⟨rfl, rfl⟩)).setProc trivial
    split
    · exact h'.spawn trivial
    · exact h'
  | settle i n err st hp hc hf => exact (h.withStore (h.handleFailure hf)).setProc trivial
  | batchWrite i b c t hp => exact (h.withStore (by exact h.rows)).setProc trivial
  | poll i k found hp hc hf =>
    refine h.setProc ?_
    cases found with
    | nil => trivial
    | cons m rest =>
      have hsub : ∀ x ∈ m :: rest, x.wellFormed := fun x hx => by
        obtain ⟨j, -, hj⟩ := Store.mem_allRows.mp (hf.mem hx).1
        exact h.row hj
      exact ⟨hsub m (List.mem_cons_self _ _), fun x hx => hsub x (List.mem_cons_of_mem _ hx)⟩

theorem of_reachable {cfg : Config} (hr : Reachable cfg s) : s.WellFormed :=
  Reach.induct (Sys.WellFormed.init cfg) (fun _ _ _ h _ hs => h.step (step_moves hs)) hr

end Sys.WellFormed

/-- `ratelimiter.New` configures a limiter for exactly the valid channels. -/
theorem ChannelLimiters.has_iff_isValid (ch : Channel) : ChannelLimiters.has ch = ch.isValid := rfl

/-- In every reachable state every row has a known channel and priority; every worker about to
call `ChannelLimiters.Wait` has a channel with a limiter, and no enqueue loop's `Enqueue`
can take the `unknown priority` branch. -/
theorem channel_and_priority_stay_known {cfg : Config} {s : Sys} (hr : Reachable cfg s) :
    (∀ j n, s.store.rows j = some n → n.channel.isValid ∧ n.priority.isValid) ∧
    (∀ (i : Nat) (n : Notification), s.procs[i]? = some (.worker (.limit n)) →
      ChannelLimiters.has n.channel) ∧
    (∀ (i : Nat) (o : Owner) (ph : EnqueuePhase) (n : Notification) (rest : List Notification),
      s.procs[i]? = some (.enqueue o ph n rest) →
      ∀ p, s.queue.enqueue n.item ≠ .error (.unknownPriority p)) := by
  have h := Sys.WellFormed.of_reachable hr
  refine ⟨fun j n hn => ?_, fun i n hp => ?_, fun i o ph n rest hp p => ?_⟩
  · simpa [Notification.wellFormed] using h.row hn
  · have hn : n.wellFormed := h.proc hp
    simp only [Notification.wellFormed, Bool.and_eq_true] at hn
    rw [ChannelLimiters.has_iff_isValid]; exact hn.1
  · have hn : n.wellFormed := (h.proc hp).1
    simp only [Notification.wellFormed, Bool.and_eq_true] at hn
    exact PriorityQueue.enqueue_ne_unknown hn.2 p

/-- An SMS request is enqueued and worker 0 takes it up to `ChannelLimiters.Wait`; an email
request is enqueued and its loop is about to write `queued`; a push request's loop is about to
`Enqueue`. -/
def midRun : List Action :=
  [.create ⟨channelSMS, "+905551234567", "Hello", priorityNormal, none⟩ "", .step 17, .step 17,
    .step 17, .step 0, .receive 0 .normal, .step 0, .step 0,
    .create ⟨channelEmail, "user@example.com", "Hello", priorityHigh, none⟩ "", .step 18, .step 18,
    .create ⟨channelPush, "device-token", "Hello", priorityLow, none⟩ "", .step 19]

/-- The SMS row as worker 0 read it. -/
def limitedRow : Notification :=
  { Service.buildNotification ⟨channelSMS, "+905551234567", "Hello", priorityNormal, none⟩ "" none 0 0
    with status := .queued }

/-- The email row, as its enqueue loop holds it. -/
def markedRow : Notification :=
  Service.buildNotification ⟨channelEmail, "user@example.com", "Hello", priorityHigh, none⟩ "" none 1 0

/-- The push row, as its enqueue loop holds it. -/
def offeredRow : Notification :=
  Service.buildNotification ⟨channelPush, "device-token", "Hello", priorityLow, none⟩ "" none 2 0

/-- Midway through a run: three rows, a worker at the limiter, an item in the high channel and
two enqueue loops, one on each side of its `Enqueue`. -/
theorem channel_and_priority_known_mid_run :
    Reachable Config.default (reached Config.default midRun) ∧
    (reached Config.default midRun).procs[0]? = some (.worker (.limit limitedRow)) ∧
    (reached Config.default midRun).procs[18]? = some (.enqueue (.create "") .mark markedRow []) ∧
    (reached Config.default midRun).procs[19]? = some (.enqueue (.create "") .offer offeredRow []) ∧
    (reached Config.default midRun).queue.buffer .high = [markedRow.item] ∧
    (∀ j n, (reached Config.default midRun).store.rows j = some n →
      n.channel.isValid ∧ n.priority.isValid) ∧
    (∀ (i : Nat) (n : Notification), (reached Config.default midRun).procs[i]? =
      some (.worker (.limit n)) → ChannelLimiters.has n.channel) ∧
    (∀ (i : Nat) (o : Owner) (ph : EnqueuePhase) (n : Notification) (rest : List Notification),
      (reached Config.default midRun).procs[i]? = some (.enqueue o ph n rest) →
      ∀ p, (reached Config.default midRun).queue.enqueue n.item ≠ .error (.unknownPriority p)) :=
  have hr : Reachable Config.default (reached Config.default midRun) := Reachable.reached (by decide)
  ⟨hr, by decide, by decide, by decide, by decide, channel_and_priority_stay_known hr⟩

end NotificationDispatch
