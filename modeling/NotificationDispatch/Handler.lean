import NotificationDispatch.Validity

/-! # The HTTP handlers (`internal/api/handler`)

What a client sees of a call. `mapError` (`respond.go`) is the one place that turns an error
into a status: its `switch` asks `errors.Is` for each sentinel in turn, and `errors.Is` looks
through every `fmt.Errorf("...: %w")` wrapper, so a wrapped error gets the status of the error it
wraps (`mapError_status_wrap`) while the body carries the whole chain's text; the `500` says only
`internal server error`. `NotificationHandler.create`, `BatchHandler.createBatch` and
`NotificationHandler.cancel` are the handlers once the body has decoded: the response for the
service's result. `Outcome.response` applies them to a call of the dispatcher that has returned.

* `returned_response_status`: in every reachable state, every returned `Create` has answered
  `201`, `200`, `409`, `422` or `500`, every `CreateBatch` `201`, `422` or `500`, and every `Cancel`
  `204`, `404`, `409` or `500`. None has answered `503`, the status `mapError` keeps for
  `ErrQueueFull` and `Create`'s annotations list: `enqueue` logs a full queue and returns, and no
  other path returns that error.
* `createBatch_answers_first_invalid`: a batch of 1 to 1000 items is refused before any store
  call when an item fails `Validate`, with `422` and the text `item k: ...` naming the first such
  item and its first failing rule; a batch of valid items goes on to the transaction.
-/

namespace NotificationDispatch
set_option autoImplicit false

/-- The JSON a handler writes. -/
inductive Body
  | notification (n : Notification)
  | batch (b : Batch)
  | page (data : List Notification) (total : Nat) (page limit : BitVec 64)
  | batchDetail (b : Batch) (notifications : List Notification)
  | queueDepth (high normal low total : Nat)
  | error (msg : String)
  | empty
  deriving DecidableEq, Repr

/-- A handler's response: the status passed to `WriteHeader`, and the body. -/
structure Response where
  status : Nat
  body : Body
  deriving DecidableEq, Repr

/-- `respondError`: `{"error": msg}`. -/
def respondError (status : Nat) (msg : String) : Response := ⟨status, .error msg⟩

/-- `mapError`: the first `case` of its `switch` whose `errors.Is` holds. -/
def mapError (err : Error) : Response :=
  if err.is .notFound then respondError 404 err.message
  else if err.is .conflict || err.is .alreadyCancelled || err.is .notCancellable then
    respondError 409 err.message
  else if err.is .invalidChannel || err.is .invalidPriority || err.is .invalidContent ||
      err.is .invalidRecipient || err.is .batchTooLarge || err.is .batchEmpty then
    respondError 422 err.message
  else if err.is .queueFull then respondError 503 err.message
  else respondError 500 "internal server error"

/-- `NotificationHandler.Create` after the body decoded: `200` for a duplicate, `201` for a new
row. -/
def NotificationHandler.create : Except Error (Notification × Bool) → Response
  | .ok (n, isDuplicate) => ⟨if isDuplicate then 200 else 201, .notification n⟩
  | .error e => mapError e

/-- `BatchHandler.CreateBatch` after the body decoded. -/
def BatchHandler.createBatch : Except Error Batch → Response
  | .ok b => ⟨201, .batch b⟩
  | .error e => mapError e

/-- `NotificationHandler.Cancel`. -/
def NotificationHandler.cancel : Except Error Unit → Response
  | .ok () => ⟨204, .empty⟩
  | .error e => mapError e

/-- The response written for a returned call; the goroutine of `UpdateBatchCounts` answers no
request. -/
def Outcome.response : Outcome → Option Response
  | .created _ r => some (NotificationHandler.create r)
  | .batchCreated r => some (BatchHandler.createBatch r)
  | .cancelled _ r => some (NotificationHandler.cancel r)
  | .finished => none

/-- The statuses each endpoint can answer. -/
def Outcome.statuses : Outcome → List Nat
  | .created _ _ => [201, 200, 409, 422, 500]
  | .batchCreated _ => [201, 422, 500]
  | .cancelled _ _ => [204, 404, 409, 500]
  | .finished => []

/-- The call answered with one of its endpoint's statuses. -/
def Outcome.answered (o : Outcome) : Bool :=
  match o.response with
  | some r => r.status ∈ o.statuses
  | none => true

/-! ## Statuses of the errors the service returns -/

/-- `errors.Is` sees through a wrapper, so a wrapped error gets the status of the one it wraps. -/
theorem mapError_status_wrap (context : String) (e : Error) :
    (mapError (.wrap context e)).status = (mapError e).status := by
  simp only [mapError, Error.is]
  split_ifs <;> rfl

@[simp] theorem mapError_status_store (msg : String) : (mapError (.store msg)).status = 500 := rfl

theorem validate_error_status {r : CreateNotificationRequest} {e : Error}
    (h : r.validate = .error e) : (mapError e).status = 422 := by
  unfold CreateNotificationRequest.validate at h
  split_ifs at h <;> cases h <;> rfl

theorem Store.getById_error_eq {st : Store} {id : Nat} {e : Error} (h : st.getById id = .error e) :
    e = .domain .notFound := by
  unfold Store.getById at h
  split at h <;> cases h
  rfl

theorem cancelRefusal_status {st : Status} {d : DomainError} (h : Service.cancelRefusal st = some d) :
    (mapError (.domain d)).status = 409 := by
  cases st <;> simp only [Service.cancelRefusal, Option.some.injEq, reduceCtorEq] at h <;> subst h <;> rfl

theorem firstInvalid_validate {reqs : List CreateNotificationRequest} {k0 k : Nat} {e : Error}
    (h : Service.firstInvalid reqs k0 = some (k, e)) : ∃ r ∈ reqs, r.validate = .error e := by
  induction reqs generalizing k0 with
  | nil => cases h
  | cons r rs ih =>
    simp only [Service.firstInvalid] at h
    split at h
    · cases h; exact ⟨r, List.mem_cons_self _ _, ‹_›⟩
    · obtain ⟨r', hr', he⟩ := ih h
      exact ⟨r', List.mem_cons_of_mem _ hr', he⟩

theorem validate_error_eq {r : CreateNotificationRequest} {e : Error} (h : r.validate = .error e) :
    e = .domain .invalidChannel ∨ e = .domain .invalidPriority ∨ e = .domain .invalidRecipient ∨
      e = .domain .invalidContent := by
  unfold CreateNotificationRequest.validate at h
  split_ifs at h <;> cases h <;> simp

/-- A wrapped validation error answers `422` with the whole chain's text. -/
theorem mapError_wrap_validate {r : CreateNotificationRequest} {e : Error}
    (h : r.validate = .error e) (context : String) :
    mapError (.wrap context e) = respondError 422 (context ++ ": " ++ e.message) := by
  rcases validate_error_eq h with rfl | rfl | rfl | rfl <;> rfl

/-- `firstInvalid` numbers the items from `k0` and stops at the first that fails `Validate`. -/
theorem firstInvalid_eq_some {reqs : List CreateNotificationRequest} {k0 j : Nat} {e : Error}
    (hj : (reqs[j]?).map (·.validate) = some (.error e))
    (hfirst : ∀ i < j, (reqs[i]?).map (·.validate) = some (.ok ())) :
    Service.firstInvalid reqs k0 = some (k0 + j, e) := by
  induction reqs generalizing k0 j with
  | nil => simp at hj
  | cons r rs ih =>
    cases j with
    | zero =>
      simp only [List.getElem?_cons_zero, Option.map_some', Option.some.injEq] at hj
      simp [Service.firstInvalid, hj]
    | succ j =>
      have hr : r.validate = .ok () := by simpa using hfirst 0 (Nat.succ_pos j)
      simp only [Service.firstInvalid, hr]
      rw [ih (by simpa using hj) fun i hi => by simpa using hfirst (i + 1) (by omega)]
      congr 2
      omega

theorem firstInvalid_eq_none {reqs : List CreateNotificationRequest} {k0 : Nat}
    (h : ∀ r ∈ reqs, r.validate = .ok ()) : Service.firstInvalid reqs k0 = none := by
  induction reqs generalizing k0 with
  | nil => rfl
  | cons r rs ih =>
    simp only [Service.firstInvalid, h r (List.mem_cons_self _ _)]
    exact ih fun r' hr' => h r' (List.mem_cons_of_mem _ hr')

/-- A batch of 1 to 1000 items reaches its transaction exactly when every item passes
`Validate`; otherwise it is answered `422` before any store call, with the index of the first
invalid item and the text of the first rule that item breaks. -/
theorem createBatch_answers_first_invalid {reqs : List CreateNotificationRequest}
    (hlen : 0 < reqs.length ∧ reqs.length ≤ 1000) :
    (Service.startCreateBatch reqs = .createBatch reqs ↔ ∀ r ∈ reqs, r.validate = .ok ()) ∧
      ∀ (j : Nat) (e : Error), (reqs[j]?).map (·.validate) = some (.error e) →
        (∀ i < j, (reqs[i]?).map (·.validate) = some (.ok ())) →
        ∃ o, Service.startCreateBatch reqs = .returned o ∧
          o.response = some (respondError 422 ("item " ++ toString j ++ ": " ++ e.message)) := by
  have hstart : Service.startCreateBatch reqs = (Service.firstInvalid reqs 0).elim (.createBatch reqs)
      fun ke => .returned (.batchCreated (.error (.wrap ("item " ++ toString ke.1) ke.2))) := by
    unfold Service.startCreateBatch
    rw [if_neg (Nat.pos_iff_ne_zero.mp hlen.1), if_neg (Nat.not_lt.mpr hlen.2)]
    generalize Service.firstInvalid reqs 0 = r
    rcases r with _ | ⟨k, e⟩ <;> rfl
  refine ⟨⟨fun h => ?_, fun h => by rw [hstart, firstInvalid_eq_none h]; rfl⟩,
    fun j e hj hfirst => ⟨_, by rw [hstart, firstInvalid_eq_some hj hfirst, Nat.zero_add]; rfl, ?_⟩⟩
  · cases hf : Service.firstInvalid reqs 0 with
    | none => exact firstInvalid_none hf
    | some ke => rw [hstart, hf] at h; cases h
  · obtain ⟨r, -, hre⟩ := Option.map_eq_some'.mp hj
    exact congrArg some (mapError_wrap_validate hre _)

/-- A batch whose item 1 asks for channel `fax`. -/
def faxBatch : List CreateNotificationRequest :=
  [⟨channelSMS, "+905551234567", "Hello", priorityHigh, none⟩,
    ⟨"fax", "+905551234567", "Hello", priorityHigh, none⟩]

theorem fax_item_refused :
    (0 < faxBatch.length ∧ faxBatch.length ≤ 1000) ∧
    ((Service.startCreateBatch faxBatch = .createBatch faxBatch ↔
        ∀ r ∈ faxBatch, r.validate = .ok ()) ∧
      ∀ (j : Nat) (e : Error), (faxBatch[j]?).map (·.validate) = some (.error e) →
        (∀ i < j, (faxBatch[i]?).map (·.validate) = some (.ok ())) →
        ∃ o, Service.startCreateBatch faxBatch = .returned o ∧
          o.response = some (respondError 422 ("item " ++ toString j ++ ": " ++ e.message))) :=
  ⟨by decide, createBatch_answers_first_invalid (by decide)⟩

/-! ## Every returned call has answered with one of its endpoint's statuses -/

def Proc.Answered : Proc → Prop
  | .returned o => o.answered
  | _ => True

theorem Proc.answered_created {key : String} {e : Error}
    (h : (mapError e).status = 409 ∨ (mapError e).status = 422 ∨ (mapError e).status = 500) :
    (Proc.returned (.created key (.error e))).Answered := by
  simp only [Proc.Answered, Outcome.answered, Outcome.response, NotificationHandler.create,
    Outcome.statuses, List.mem_cons, decide_eq_true_eq]
  omega

theorem Proc.answered_batchCreated {e : Error}
    (h : (mapError e).status = 422 ∨ (mapError e).status = 500) :
    (Proc.returned (.batchCreated (.error e))).Answered := by
  simp only [Proc.Answered, Outcome.answered, Outcome.response, BatchHandler.createBatch,
    Outcome.statuses, List.mem_cons, decide_eq_true_eq]
  omega

theorem Proc.answered_cancelled {id : Nat} {e : Error}
    (h : (mapError e).status = 404 ∨ (mapError e).status = 409 ∨ (mapError e).status = 500) :
    (Proc.returned (.cancelled id (.error e))).Answered := by
  simp only [Proc.Answered, Outcome.answered, Outcome.response, NotificationHandler.cancel,
    Outcome.statuses, List.mem_cons, decide_eq_true_eq]
  omega

theorem Owner.next_answered (o : Owner) (n : Notification) (rest : List Notification) :
    (o.next n rest).Answered := by
  cases rest with
  | nil => cases o <;> first | rfl | trivial
  | cons => trivial

theorem Service.startCreate_answered (req : CreateNotificationRequest) (key : String) :
    (Service.startCreate req key).Answered := by
  unfold Service.startCreate
  split
  · exact Proc.answered_created (.inr (.inl (validate_error_status ‹_›)))
  · trivial

theorem Service.startCreateBatch_answered (reqs : List CreateNotificationRequest) :
    (Service.startCreateBatch reqs).Answered := by
  unfold Service.startCreateBatch
  split
  · exact Proc.answered_batchCreated (.inl rfl)
  · split
    · exact Proc.answered_batchCreated (.inl rfl)
    · split
      · obtain ⟨_, _, he⟩ := firstInvalid_validate ‹_›
        exact Proc.answered_batchCreated (.inl ((mapError_status_wrap _ _).trans
          (validate_error_status he)))
      · trivial

namespace Sys

/-- Every returned call has answered with one of its endpoint's statuses. -/
def Answered (s : Sys) : Prop := ∀ p ∈ s.procs, p.Answered

namespace Answered

variable {s : Sys}

theorem proc (h : s.Answered) {i : Nat} {p : Proc} (hp : s.procs[i]? = some p) : p.Answered :=
  h p (List.getElem?_mem hp)

theorem set (h : s.Answered) {s' : Sys} {i : Nat} {p : Proc} (hs : s'.procs = s.procs.set i p)
    (hp : p.Answered) : s'.Answered := fun q hq => by
  rw [hs] at hq
  exact (List.mem_or_eq_of_mem_set hq).elim (h q) (· ▸ hp)

theorem spawn (h : s.Answered) {s' : Sys} {p : Proc} (hs : s'.procs = s.procs ++ [p])
    (hp : p.Answered) : s'.Answered := fun q hq => by
  rw [hs] at hq
  exact (List.mem_append.mp hq).elim (h q) fun hq => (List.mem_singleton.mp hq) ▸ hp

theorem initProcs (cfg : Config) : ∀ p ∈ initProcs cfg, p.Answered := by
  intro p hp
  rcases List.mem_append.mp hp with hp | hp
  · rw [List.eq_of_mem_replicate hp]; trivial
  · simp only [List.mem_cons, List.mem_singleton, List.not_mem_nil, or_false] at hp
    rcases hp with rfl | rfl <;> trivial

/-- Every step keeps the invariant: each call that returns does so with one of its statuses. -/
theorem step (h : s.Answered) {cfg : Config} {a : Action} {s' : Sys} (hm : Moves cfg s a s') :
    s'.Answered := by
  cases hm with
  | tick | shutdown => exact h
  | restart => exact Answered.initProcs cfg
  | create req key => exact h.spawn rfl (Service.startCreate_answered req key)
  | createBatch reqs => exact h.spawn rfl (Service.startCreateBatch_answered reqs)
  | cancel => exact h.spawn rfl trivial
  | lookupHit => exact h.set rfl rfl
  | cancelWrite | batchWrite | batchCountsFail => exact h.set rfl rfl
  | lookupMiss | offerOk | dequeueHigh | dequeueEmpty | receive | workerStop | fetchClaim
    | fetchSkip | fetchMissing | claim | limitPanic | limitBurst | limitCancelled | limitGranted
    | sendOk | sendError | settle | settlePanic | workerFail | batchCounts | pollFail
    | pollerStop =>
    exact h.set rfl trivial
  | poll i k found => exact h.set rfl (by cases found <;> trivial)
  | insertConflict i req key e hp hk =>
    rw [Store.create_error hk]
    exact h.set rfl (Proc.answered_created (.inl rfl))
  | insertOk i req key st hp hk =>
    refine h.set rfl ?_
    split
    · rfl
    · trivial
  | createFail i req key ph msg hp =>
    cases ph
    · exact h.set rfl (Proc.answered_created (.inr (.inr rfl)))
    · exact h.set rfl (Proc.answered_created (.inr (.inr rfl)))
  | batchInsert i reqs hp =>
    refine h.set rfl ?_
    split
    · rfl
    · trivial
  | batchFail => exact h.set rfl (Proc.answered_batchCreated (.inr rfl))
  | cancelFetch i id hp =>
    refine h.set rfl ?_
    split
    · rename_i e he
      rw [Store.getById_error_eq he]
      exact Proc.answered_cancelled (.inl rfl)
    · split
      · exact Proc.answered_cancelled (.inr (.inl (cancelRefusal_status ‹_›)))
      · trivial
  | cancelFail => exact h.set rfl (Proc.answered_cancelled (.inr (.inr rfl)))
  | offerRefused i o n rest e hp | markFail i o n rest msg hp =>
    exact h.set rfl (o.next_answered n rest)
  | markOk i o n rest hp => exact h.set rfl (o.next_answered _ rest)
  | markSent i n msgId hp =>
    have h' : ((s.withStore (s.store.markSent n.id msgId s.now s.now)).setProc i
        (.worker .dequeue)).Answered := h.set rfl trivial
    split
    · exact h'.spawn rfl trivial
    · exact h'

theorem of_reach {cfg : Config} {P : Sys → Action → Prop} (hr : Reach cfg P s) : s.Answered := by
  induction hr with
  | init => exact Answered.initProcs cfg
  | step _ _ hs ih => exact ih.step (step_moves hs)

end Answered

end Sys

/-- In every reachable state, every call that has returned answered with a status its endpoint
can give: `Create` 201, 200, 409, 422 or 500; `CreateBatch` 201, 422 or 500; `Cancel` 204, 404,
409 or 500. No call ever answers 503. -/
theorem returned_response_status {cfg : Config} {s : Sys} (hr : Reachable cfg s) {o : Outcome}
    (ho : Proc.returned o ∈ s.procs) {r : Response} (hres : o.response = some r) :
    r.status ∈ o.statuses ∧ r.status ≠ 503 := by
  have h : o.answered = true := Sys.Answered.of_reach hr _ ho
  simp only [Outcome.answered, hres, decide_eq_true_eq] at h
  refine ⟨h, fun h503 => ?_⟩
  rw [h503] at h
  cases o <;> simp [Outcome.statuses] at h

/-- A `Create` whose channel is `fax` has returned, answered `422`. -/
theorem invalid_create_answered_422 :
    Reachable Config.default
        (reached Config.default [.create ⟨"fax", "+905551234567", "Hello", priorityHigh, none⟩ ""]) ∧
      Proc.returned (.created "" (.error (.domain .invalidChannel))) ∈
        (reached Config.default [.create ⟨"fax", "+905551234567", "Hello", priorityHigh, none⟩ ""]).procs ∧
      (Outcome.created "" (.error (.domain .invalidChannel))).response =
        some (respondError 422 "invalid channel: must be sms, email, or push") ∧
      (respondError 422 "invalid channel: must be sms, email, or push").status ∈
        (Outcome.created "" (.error (.domain .invalidChannel))).statuses ∧
      (respondError 422 "invalid channel: must be sms, email, or push").status ≠ 503 := by
  have hr := @Reachable.reached Config.default
    [.create ⟨"fax", "+905551234567", "Hello", priorityHigh, none⟩ ""] (by decide)
  have hm : Proc.returned (.created "" (.error (.domain .invalidChannel))) ∈
      (reached Config.default [.create ⟨"fax", "+905551234567", "Hello", priorityHigh, none⟩ ""]).procs := by
    decide
  exact ⟨hr, hm, rfl, returned_response_status hr hm rfl⟩

end NotificationDispatch
