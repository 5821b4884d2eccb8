import NotificationDispatch.System

/-! # What one step can do

`Moves cfg s a s'` lists every way `step cfg s a = some s'` can happen, with the guard that
enables it and the successor state written out. `step_moves` is proved once, by unfolding
`step` and every component function. Each invariant is then proved by one case per
constructor, and no invariant unfolds `step` again.
-/

namespace NotificationDispatch
set_option autoImplicit false

open Service in
inductive Moves (cfg : Config) (s : Sys) : Action → Sys → Prop
  | tick (t : Int) (h : s.now ≤ t) : Moves cfg s (.tick t) { s with now := t }
  | create (req : CreateNotificationRequest) (key : String) (hc : s.cancelled = false) :
      Moves cfg s (.create req key) (s.spawn (startCreate req key))
  | createBatch (reqs : List CreateNotificationRequest) (hc : s.cancelled = false) :
      Moves cfg s (.createBatch reqs) (s.spawn (startCreateBatch reqs))
  | cancel (id : Nat) (hc : s.cancelled = false) :
      Moves cfg s (.cancel id) (s.spawn (.cancel id .fetch))
  | shutdown (hc : s.cancelled = false) : Moves cfg s .shutdown { s with cancelled := true }
  | restart (hc : s.cancelled = true) (hw : s.workersExited = true) :
      Moves cfg s .restart
        { s with queue := .empty, procs := initProcs cfg, cancelled := false, startedAt := s.now }
  | lookupHit (i : Nat) (req : CreateNotificationRequest) (key : String) (existing : Notification)
      (hp : s.procs[i]? = some (.create req key .lookup))
      (hk : s.store.getByIdempotencyKey key = .ok existing) :
      Moves cfg s (.step i) (s.setProc i (.returned (.created key (.ok (existing, true)))))
  | lookupMiss (i : Nat) (req : CreateNotificationRequest) (key : String) (e : Error)
      (hp : s.procs[i]? = some (.create req key .lookup))
      (hk : s.store.getByIdempotencyKey key = .error e) :
      Moves cfg s (.step i) (s.setProc i (.create req key .insert))
  | insertConflict (i : Nat) (req : CreateNotificationRequest) (key : String) (e : Error)
      (hp : s.procs[i]? = some (.create req key .insert))
      (hk : s.store.create (buildNotification req key none s.store.nextId s.now) = .error e) :
      Moves cfg s (.step i)
        (s.setProc i (.returned (.created key (.error (.wrap "persist notification" e)))))
  | insertOk (i : Nat) (req : CreateNotificationRequest) (key : String) (st : Store)
      (hp : s.procs[i]? = some (.create req key .insert))
      (hk : s.store.create (buildNotification req key none s.store.nextId s.now) = .ok st) :
      Moves cfg s (.step i) ((s.withStore st).setProc i
        (if req.scheduledAt.isSome then
          (Owner.create key).finish (buildNotification req key none s.store.nextId s.now)
         else .enqueue (.create key) .offer (buildNotification req key none s.store.nextId s.now) []))
  | createFail (i : Nat) (req : CreateNotificationRequest) (key : String) (ph : CreatePhase)
      (msg : String) (hp : s.procs[i]? = some (.create req key ph)) :
      Moves cfg s (.fail i msg) (createFail s i key msg ph)
  | batchInsert (i : Nat) (reqs : List CreateNotificationRequest)
      (hp : s.procs[i]? = some (.createBatch reqs)) :
      Moves cfg s (.step i) (createBatchStep s i reqs)
  | batchFail (i : Nat) (reqs : List CreateNotificationRequest) (msg : String)
      (hp : s.procs[i]? = some (.createBatch reqs)) :
      Moves cfg s (.fail i msg) (createBatchFail s i msg)
  | cancelFetch (i id : Nat) (hp : s.procs[i]? = some (.cancel id .fetch)) :
      Moves cfg s (.step i) (cancelStep s i id .fetch)
  | cancelWrite (i id : Nat) (n : Notification) (hp : s.procs[i]? = some (.cancel id (.write n))) :
      Moves cfg s (.step i)
        ((s.withStore (s.store.cancel id s.now)).setProc i (.returned (.cancelled id (.ok ()))))
  | cancelFail (i id : Nat) (ph : CancelPhase) (msg : String)
      (hp : s.procs[i]? = some (.cancel id ph)) :
      Moves cfg s (.fail i msg) (cancelFail s i id msg)
  | offerOk (i : Nat) (o : Owner) (n : Notification) (rest : List Notification) (q : PriorityQueue)
      (hp : s.procs[i]? = some (.enqueue o .offer n rest)) (hq : s.queue.enqueue n.item = .ok q) :
      Moves cfg s (.step i) ((s.withQueue q).setProc i (.enqueue o .mark n rest))
  | offerRefused (i : Nat) (o : Owner) (n : Notification) (rest : List Notification) (e : Error)
      (hp : s.procs[i]? = some (.enqueue o .offer n rest)) (hq : s.queue.enqueue n.item = .error e) :
      Moves cfg s (.step i) (s.setProc i (o.next n rest))
  | markOk (i : Nat) (o : Owner) (n : Notification) (rest : List Notification)
      (hp : s.procs[i]? = some (.enqueue o .mark n rest)) (hc : (o.workerCtx && s.cancelled) = false) :
      Moves cfg s (.step i) ((s.withStore (s.store.updateStatus n.id .queued s.now)).setProc i
        (o.next { n with status := .queued } rest))
  | markFail (i : Nat) (o : Owner) (n : Notification) (rest : List Notification) (msg : String)
      (hp : s.procs[i]? = some (.enqueue o .mark n rest)) :
      Moves cfg s (.fail i msg) (s.setProc i (o.next n rest))
  | dequeueHigh (i : Nat) (it : Item) (q : PriorityQueue)
      (hp : s.procs[i]? = some (.worker .dequeue)) (hq : s.queue.dequeueHigh = some (it, q)) :
      Moves cfg s (.step i) ((s.withQueue q).setProc i (.worker (.fetch it)))
  | dequeueEmpty (i : Nat) (hp : s.procs[i]? = some (.worker .dequeue))
      (hq : s.queue.dequeueHigh = none) :
      Moves cfg s (.step i) (s.setProc i (.worker .select))
  | receive (i : Nat) (t : Tier) (it : Item) (q : PriorityQueue)
      (hp : s.procs[i]? = some (.worker .select)) (hq : s.queue.receive t = some (it, q)) :
      Moves cfg s (.receive i t) ((s.withQueue q).setProc i (.worker (.fetch it)))
  | workerStop (i : Nat) (hp : s.procs[i]? = some (.worker .select)) (hc : s.cancelled = true) :
      Moves cfg s (.stop i) (s.setProc i (.worker .exited))
  | fetchClaim (i : Nat) (it : Item) (n : Notification) (hp : s.procs[i]? = some (.worker (.fetch it)))
      (hc : s.cancelled = false) (hn : s.store.rows it.notificationId = some n)
      (hs : n.status ≠ .cancelled) :
      Moves cfg s (.step i) (s.setProc i (.worker (.claim n)))
  | fetchSkip (i : Nat) (it : Item) (n : Notification) (hp : s.procs[i]? = some (.worker (.fetch it)))
      (hc : s.cancelled = false) (hn : s.store.rows it.notificationId = some n)
      (hs : n.status = .cancelled) :
      Moves cfg s (.step i) (s.setProc i (.worker .dequeue))
  | fetchMissing (i : Nat) (it : Item) (hp : s.procs[i]? = some (.worker (.fetch it)))
      (hc : s.cancelled = false) (hn : s.store.rows it.notificationId = none) :
      Moves cfg s (.step i) (s.setProc i (.worker .dequeue))
  | claim (i : Nat) (n : Notification) (hp : s.procs[i]? = some (.worker (.claim n)))
      (hc : s.cancelled = false) :
      Moves cfg s (.step i)
        ((s.withStore (s.store.updateStatus n.id .processing s.now)).setProc i (.worker (.limit n)))
  | limitPanic (i : Nat) (n : Notification) (hp : s.procs[i]? = some (.worker (.limit n)))
      (hl : ChannelLimiters.has n.channel = false) :
      Moves cfg s (.step i) (s.setProc i (.worker .panicked))
  | limitBurst (i : Nat) (n : Notification) (hp : s.procs[i]? = some (.worker (.limit n)))
      (hl : ChannelLimiters.has n.channel = true) (hr : cfg.rateLimit < 1) :
      Moves cfg s (.step i) (s.setProc i (.worker .dequeue))
  | limitCancelled (i : Nat) (n : Notification) (hp : s.procs[i]? = some (.worker (.limit n)))
      (hl : ChannelLimiters.has n.channel = true) (hc : s.cancelled = true) (hr : 1 ≤ cfg.rateLimit) :
      Moves cfg s (.step i) (s.setProc i (.worker .dequeue))
  | limitGranted (i : Nat) (n : Notification) (hp : s.procs[i]? = some (.worker (.limit n)))
      (hl : ChannelLimiters.has n.channel = true) (hc : s.cancelled = false) (hr : 1 ≤ cfg.rateLimit) :
      Moves cfg s (.step i) (s.setProc i (.worker (.send n)))
  | sendOk (i : Nat) (n : Notification) (msgId : String) (hp : s.procs[i]? = some (.worker (.send n)))
      (hc : s.cancelled = false) :
      Moves cfg s (.reply i (.ok msgId))
        ({ s with sendLog := s.sendLog ++ [(n.id, s.now)] }.setProc i (.worker (.markSent n msgId)))
  | sendError (i : Nat) (n : Notification) (err : String) (hp : s.procs[i]? = some (.worker (.send n))) :
      Moves cfg s (.reply i (.error err))
        ({ s with sendLog := s.sendLog ++ [(n.id, s.now)] }.setProc i (.worker (.handleFailure n err)))
  | markSent (i : Nat) (n : Notification) (msgId : String)
      (hp : s.procs[i]? = some (.worker (.markSent n msgId))) (hc : s.cancelled = false) :
      Moves cfg s (.step i)
        (let s' := (s.withStore (s.store.markSent n.id msgId s.now s.now)).setProc i (.worker .dequeue)
         match n.batchId with
         | some b => s'.spawn (.batchCounts b)
         | none => s')
  | settle (i : Nat) (n : Notification) (err : String) (st : Store)
      (hp : s.procs[i]? = some (.worker (.handleFailure n err))) (hc : s.cancelled = false)
      (hf : Worker.handleFailure cfg.retryBackoff s.store n err s.now = some st) :
      Moves cfg s (.step i) ((s.withStore st).setProc i (.worker .dequeue))
  | settlePanic (i : Nat) (n : Notification) (err : String)
      (hp : s.procs[i]? = some (.worker (.handleFailure n err))) (hc : s.cancelled = false)
      (hf : Worker.handleFailure cfg.retryBackoff s.store n err s.now = none) :
      Moves cfg s (.step i) (s.setProc i (.worker .panicked))
  | workerFail (i : Nat) (ph : WorkerPhase) (msg : String) (hp : s.procs[i]? = some (.worker ph))
      (hph : (∃ it, ph = .fetch it) ∨ (∃ n, ph = .claim n) ∨ (∃ n m, ph = .markSent n m) ∨
        ∃ n err, ph = .handleFailure n err ∧
          (Worker.handleFailure cfg.retryBackoff s.store n err s.now).isSome) :
      Moves cfg s (.fail i msg) (s.setProc i (.worker .dequeue))
  | batchCounts (i b : Nat) (hp : s.procs[i]? = some (.batchCounts b)) :
      Moves cfg s (.step i) (s.setProc i (.batchWrite b (s.store.recount b) s.now))
  | batchWrite (i b : Nat) (c : BatchCounts) (t : Int) (hp : s.procs[i]? = some (.batchWrite b c t)) :
      Moves cfg s (.step i) ((s.withStore (s.store.writeBatchCounts b c t)).setProc i (.returned .finished))
  | batchCountsFail (i b : Nat) (c : BatchCounts) (t : Int) (msg : String)
      (hp : s.procs[i]? = some (.batchWrite b c t)) :
      Moves cfg s (.fail i msg) (s.setProc i (.returned .finished))
  | poll (i : Nat) (k : PollKind) (found : List Notification)
      (hp : s.procs[i]? = some (.poller k .wait)) (hc : s.cancelled = false)
      (hf : s.store.QueryResult (k.due s.now) found) :
      Moves cfg s (.poll i found) (s.setProc i (Poller.enqueueAll k found))
  | pollFail (i : Nat) (k : PollKind) (msg : String) (hp : s.procs[i]? = some (.poller k .wait)) :
      Moves cfg s (.fail i msg) (s.setProc i (.poller k .wait))
  | pollerStop (i : Nat) (k : PollKind) (hp : s.procs[i]? = some (.poller k .wait))
      (hc : s.cancelled = true) :
      Moves cfg s (.stop i) (s.setProc i (.poller k .exited))

end NotificationDispatch

namespace NotificationDispatch

theorem ChannelLimiters.wait_cases {rate : Int} {c : Bool} {ch : Channel}
    {r : Option (Except String Unit)} (h : ChannelLimiters.wait rate c ch = r) :
    (r = none ∧ has ch = false) ∨ (∃ e, r = some (.error e) ∧ has ch = true ∧ rate < 1) ∨
      (∃ e, r = some (.error e) ∧ has ch = true ∧ c = true ∧ 1 ≤ rate) ∨
      (r = some (.ok ()) ∧ has ch = true ∧ c = false ∧ 1 ≤ rate) := by
  unfold wait at h
  subst h
  cases hh : has ch
  · simp
  · by_cases hr : rate < 1
    · simp [hr]
    · cases c <;> simp [hr] <;> omega

theorem step_moves {cfg : Config} {s s' : Sys} {a : Action} (h : step cfg s a = some s') :
    Moves cfg s a s' := by
  cases a with
  | tick t =>
    simp only [step] at h
    split at h
    · cases h; exact .tick t ‹_›
    · cases h
  | create req key =>
    simp only [step] at h
    split at h
    · cases h
    · cases h; exact .create req key (Bool.eq_false_iff.mpr ‹_›)
  | createBatch reqs =>
    simp only [step] at h
    split at h
    · cases h
    · cases h; exact .createBatch reqs (Bool.eq_false_iff.mpr ‹_›)
  | cancel id =>
    simp only [step] at h
    split at h
    · cases h
    · cases h; exact .cancel id (Bool.eq_false_iff.mpr ‹_›)
  | shutdown =>
    simp only [step] at h
    split at h
    · cases h
    · cases h; exact .shutdown (Bool.eq_false_iff.mpr ‹_›)
  | restart =>
    simp only [step] at h
    split at h
    · rename_i hc
      cases h
      simp only [Bool.and_eq_true] at hc
      exact .restart hc.1 hc.2
    · cases h
  | step i =>
    simp only [step, Option.bind_eq_some] at h
    obtain ⟨p, hp, h⟩ := h
    cases p with
    | create req key ph =>
      simp only [Proc.step, Option.some.injEq] at h
      subst h
      cases ph with
      | lookup =>
        simp only [Service.createStep]
        split
        · exact .lookupHit i req key _ hp ‹_›
        · exact .lookupMiss i req key _ hp ‹_›
      | insert =>
        simp only [Service.createStep]
        split
        · exact .insertConflict i req key _ hp ‹_›
        · exact .insertOk i req key _ hp ‹_›
    | createBatch reqs =>
      simp only [Proc.step, Option.some.injEq] at h
      subst h; exact .batchInsert i reqs hp
    | cancel id ph =>
      simp only [Proc.step, Option.some.injEq] at h
      subst h
      cases ph with
      | fetch => exact .cancelFetch i id hp
      | write n => exact .cancelWrite i id n hp
    | enqueue o ph n rest =>
      cases ph with
      | offer =>
        simp only [Proc.step, Service.enqueueStep, Option.some.injEq] at h
        subst h
        split
        · exact .offerOk i o n rest _ hp ‹_›
        · exact .offerRefused i o n rest _ hp ‹_›
      | mark =>
        simp only [Proc.step, Service.enqueueStep] at h
        split at h
        · cases h
        · cases h; exact .markOk i o n rest hp (Bool.eq_false_iff.mpr ‹_›)
    | worker ph =>
      cases ph with
      | dequeue =>
        simp only [Proc.step, Worker.step, Option.some.injEq] at h
        subst h
        split
        · exact .dequeueHigh i _ _ hp ‹_›
        · exact .dequeueEmpty i hp ‹_›
      | fetch it =>
        simp only [Proc.step, Worker.step] at h
        split at h
        · cases h
        · rename_i hc
          simp only [Option.some.injEq] at h
          subst h
          split
          · rename_i n hn
            have hr := Store.getById_ok hn
            split
            · exact .fetchSkip i it n hp (by simpa using hc) hr ‹_›
            · exact .fetchClaim i it n hp (by simpa using hc) hr ‹_›
          · exact .fetchMissing i it hp (by simpa using hc) (Store.getById_error ‹_›)
      | claim n =>
        simp only [Proc.step, Worker.step] at h
        split at h
        · cases h
        · cases h; exact .claim i n hp (Bool.eq_false_iff.mpr ‹_›)
      | limit n =>
        simp only [Proc.step, Worker.step, Option.some.injEq] at h
        subst h
        rcases @ChannelLimiters.wait_cases cfg.rateLimit s.cancelled n.channel _ rfl with
          ⟨hw, hl⟩ | ⟨e, hw, hl, hr⟩ | ⟨e, hw, hl, hc, hr⟩ | ⟨hw, hl, hc, hr⟩ <;> rw [hw]
        · exact .limitPanic i n hp hl
        · exact .limitBurst i n hp hl hr
        · exact .limitCancelled i n hp hl hc hr
        · exact .limitGranted i n hp hl hc hr
      | markSent n msgId =>
        simp only [Proc.step, Worker.step] at h
        split at h
        · cases h
        · cases h; exact .markSent i n msgId hp (Bool.eq_false_iff.mpr ‹_›)
      | handleFailure n err =>
        simp only [Proc.step, Worker.step] at h
        split at h
        · cases h
        · rename_i hc
          simp only [Option.some.injEq] at h
          subst h
          split
          · exact .settle i n err _ hp (by simpa using hc) ‹_›
          · exact .settlePanic i n err hp (by simpa using hc) ‹_›
      | select => simp [Proc.step, Worker.step] at h
      | send n => simp [Proc.step, Worker.step] at h
      | exited => simp [Proc.step, Worker.step] at h
      | panicked => simp [Proc.step, Worker.step] at h
    | poller k ph => simp [Proc.step] at h
    | batchCounts b =>
      simp only [Proc.step, Option.some.injEq] at h
      subst h; exact .batchCounts i b hp
    | batchWrite b c t =>
      simp only [Proc.step, Option.some.injEq] at h
      subst h; exact .batchWrite i b c t hp
    | returned o => simp [Proc.step] at h
  | fail i msg =>
    simp only [step, Option.bind_eq_some] at h
    obtain ⟨p, hp, h⟩ := h
    cases p with
    | create req key ph =>
      simp only [Proc.fail, Option.some.injEq] at h
      subst h; exact .createFail i req key ph msg hp
    | createBatch reqs =>
      simp only [Proc.fail, Option.some.injEq] at h
      subst h; exact .batchFail i reqs msg hp
    | cancel id ph =>
      simp only [Proc.fail, Option.some.injEq] at h
      subst h; exact .cancelFail i id ph msg hp
    | enqueue o ph n rest =>
      cases ph with
      | offer => simp [Proc.fail, Service.enqueueFail] at h
      | mark =>
        simp only [Proc.fail, Service.enqueueFail, Option.some.injEq] at h
        subst h; exact .markFail i o n rest msg hp
    | worker ph =>
      cases ph with
      | fetch it =>
        simp only [Proc.fail, Worker.fail, Option.some.injEq] at h
        subst h; exact .workerFail i _ msg hp (.inl ⟨it, rfl⟩)
      | claim n =>
        simp only [Proc.fail, Worker.fail, Option.some.injEq] at h
        subst h; exact .workerFail i _ msg hp (.inr (.inl ⟨n, rfl⟩))
      | markSent n m =>
        simp only [Proc.fail, Worker.fail, Option.some.injEq] at h
        subst h; exact .workerFail i _ msg hp (.inr (.inr (.inl ⟨n, m, rfl⟩)))
      | handleFailure n err =>
        simp only [Proc.fail, Worker.fail] at h
        split at h
        · cases h; exact .workerFail i _ msg hp (.inr (.inr (.inr ⟨n, err, rfl, ‹_›⟩)))
        · cases h
      | dequeue => simp [Proc.fail, Worker.fail] at h
      | select => simp [Proc.fail, Worker.fail] at h
      | limit n => simp [Proc.fail, Worker.fail] at h
      | send n => simp [Proc.fail, Worker.fail] at h
      | exited => simp [Proc.fail, Worker.fail] at h
      | panicked => simp [Proc.fail, Worker.fail] at h
    | poller k ph =>
      cases ph with
      | wait =>
        simp only [Proc.fail, Poller.fail, Option.some.injEq] at h
        subst h; exact .pollFail i k msg hp
      | exited => simp [Proc.fail, Poller.fail] at h
    | batchCounts b => simp [Proc.fail] at h
    | batchWrite b c t =>
      simp only [Proc.fail, Option.some.injEq] at h
      subst h; exact .batchCountsFail i b c t msg hp
    | returned o => simp [Proc.fail] at h
  | receive i t =>
    simp only [step] at h
    split at h
    · rename_i ph hp
      cases ph with
      | select =>
        simp only [Worker.receive, Option.map_eq_some'] at h
        obtain ⟨⟨it, q⟩, hq, rfl⟩ := h
        exact .receive i t it q hp hq
      | _ => simp [Worker.receive] at h
    · cases h
  | stop i =>
    simp only [step] at h
    split at h
    · rename_i ph hp
      cases ph with
      | select =>
        simp only [Worker.stop] at h
        split at h
        · cases h; exact .workerStop i hp ‹_›
        · cases h
      | _ => simp [Worker.stop] at h
    · rename_i k ph hp
      cases ph with
      | wait =>
        simp only [Poller.stop] at h
        split at h
        · cases h; exact .pollerStop i k hp ‹_›
        · cases h
      | exited => simp [Poller.stop] at h
    · cases h
  | reply i r =>
    simp only [step] at h
    split at h
    · rename_i ph hp
      cases ph with
      | send n =>
        simp only [Worker.reply] at h
        cases r with
        | ok msgId =>
          simp only at h
          split at h
          · cases h
          · cases h; exact .sendOk i n msgId hp (Bool.eq_false_iff.mpr ‹_›)
        | error err =>
          simp only [Option.some.injEq] at h
          subst h; exact .sendError i n err hp
      | _ => simp [Worker.reply] at h
    · cases h
  | poll i found =>
    simp only [step] at h
    split at h
    · rename_i k hp
      simp only [Poller.poll] at h
      split at h
      · rename_i hc
        simp only [Bool.and_eq_true, Bool.not_eq_true', decide_eq_true_eq] at hc
        cases h; exact .poll i k found hp hc.1 hc.2
      · cases h
    · cases h

end NotificationDispatch
