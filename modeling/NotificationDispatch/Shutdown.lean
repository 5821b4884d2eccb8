import NotificationDispatch.Moves

/-! # Graceful shutdown starts no delivery

Once `workerCtx` is cancelled, `ChannelLimiters.Wait` returns the context's error, so no worker
gets from the limiter to `Send`, and no new request or poll starts a goroutine. Only the workers
already at `Send` (`Sys.inFlight`) call the provider, and their calls end in the context's
error. So from a state with the context cancelled, up to the restart, every `Send` recorded is of
a row one of those workers held, and there are at most as many as there were such workers
(`shutdown_sends_only_in_flight`).
-/

namespace NotificationDispatch
set_option autoImplicit false

/-! ## `filterMap` over one replaced element -/

section SetFilterMap

variable {α β : Type} (f : α → Option β)

theorem length_filterMap_set {l : List α} {i : Nat} {old : α} (h : l[i]? = some old) (p : α) :
    ((l.set i p).filterMap f).length + (f old).toList.length =
      (l.filterMap f).length + (f p).toList.length := by
  induction l generalizing i with
  | nil => cases h
  | cons a l ih =>
    cases i with
    | zero =>
      simp only [List.getElem?_cons_zero, Option.some.injEq] at h
      subst h
      cases hp : f p <;> cases ho : f a <;> simp [List.filterMap_cons, hp, ho]
    | succ i =>
      have := ih (by simpa using h)
      cases ha : f a <;> simp [List.filterMap_cons, ha] at this ⊢ <;> omega

theorem mem_filterMap_set {l : List α} {i : Nat} {p : α} {b : β}
    (h : b ∈ (l.set i p).filterMap f) : b ∈ l.filterMap f ∨ f p = some b := by
  simp only [List.mem_filterMap] at h ⊢
  obtain ⟨a, ha, hfa⟩ := h
  rcases List.mem_or_eq_of_mem_set ha with ha | rfl
  exacts [.inl ⟨a, ha, hfa⟩, .inr hfa]

end SetFilterMap

/-- The row a worker between the limiter and `Send` holds. -/
def Proc.sending : Proc → Option Notification
  | .worker (.send n) => some n
  | _ => none

/-- The rows the workers now at `Send` hold. -/
def Sys.inFlight (s : Sys) : List Notification := s.procs.filterMap Proc.sending

/-- What a run from `s₀`, the context cancelled, has done so far: the context is still
cancelled, the `Send`s recorded since are of rows in flight at `s₀`, and they and the workers
still at `Send` are no more than those at `s₀`. -/
structure Sys.Drained (s₀ s : Sys) : Prop where
  cancelled : s.cancelled = true
  sends : ∃ new, s.sendLog = s₀.sendLog ++ new ∧ new.length + s.inFlight.length ≤ s₀.inFlight.length ∧
    ∀ e ∈ new, ∃ n ∈ s₀.inFlight, e.1 = n.id
  held : ∀ n ∈ s.inFlight, n ∈ s₀.inFlight

namespace Sys.Drained

theorem refl {s : Sys} (hc : s.cancelled = true) : s.Drained s :=
  ⟨hc, ⟨[], by simp, by simp, by simp⟩, fun _ h => h⟩

/-- A step that replaces a goroutine not at `Send` by one not at `Send`. -/
theorem replace {s₀ s : Sys} (h : s₀.Drained s) {i : Nat} {old p : Proc}
    (hold : s.procs[i]? = some old) {s' : Sys} (hs' : s'.procs = s.procs.set i p)
    (ho : old.sending = none) (hp : p.sending = none) (hc : s'.cancelled = true)
    (hl : s'.sendLog = s.sendLog) :
    s₀.Drained s' := by
  have hlen := length_filterMap_set Proc.sending hold p
  rw [ho, hp] at hlen
  obtain ⟨new, hlog, hcount, hids⟩ := h.sends
  refine ⟨hc, ⟨new, hl.trans hlog, ?_, hids⟩, fun n hn => ?_⟩
  · simp only [Sys.inFlight, hs'] at hcount ⊢
    simp only [Option.toList_none, List.length_nil, Nat.add_zero] at hlen
    omega
  · simp only [Sys.inFlight, hs'] at hn
    rcases mem_filterMap_set Proc.sending hn with hn | hn
    exacts [h.held n hn, by rw [hp] at hn; cases hn]

/-- Every step but the restart keeps a cancelled run drained. -/
theorem step {s₀ s : Sys} (h : s₀.Drained s) {cfg : Config} {a : Action} {s' : Sys}
    (hm : Moves cfg s a s') (ha : a ≠ .restart) : s₀.Drained s' := by
  have hc := h.cancelled
  cases hm with
  | tick => exact ⟨hc, h.sends, h.held⟩
  | create _ _ hc' | createBatch _ hc' | cancel _ hc' | shutdown hc' | limitGranted _ _ _ _ hc'
    | sendOk _ _ _ _ hc' | markSent _ _ _ _ hc' | fetchClaim _ _ _ _ hc' | fetchSkip _ _ _ _ hc'
    | fetchMissing _ _ _ hc' | claim _ _ _ hc' | settle _ _ _ _ _ hc' | settlePanic _ _ _ _ hc'
    | poll _ _ _ _ hc' => rw [hc] at hc'; cases hc'
  | restart => exact absurd rfl ha
  | sendError i n err hp =>
    obtain ⟨new, hlog, hcount, hids⟩ := h.sends
    have hlen := length_filterMap_set Proc.sending hp (.worker (.handleFailure n err))
    have hn : n ∈ s.inFlight := List.mem_filterMap.mpr ⟨_, List.getElem?_mem hp, rfl⟩
    refine ⟨hc, ⟨new ++ [(n.id, s.now)], by simp [Sys.setProc, hlog], ?_, fun e he => ?_⟩,
      fun m hm => ?_⟩
    · simp only [Sys.inFlight, Sys.setProc] at hcount ⊢
      simp only [Proc.sending, Option.toList_some, Option.toList_none, List.length_singleton,
        List.length_nil, Nat.add_zero] at hlen
      simp only [List.length_append, List.length_singleton]
      omega
    · rcases List.mem_append.mp he with he | he
      · exact hids e he
      · rw [List.mem_singleton.mp he]; exact ⟨n, h.held n hn, rfl⟩
    · rcases mem_filterMap_set Proc.sending hm with hm | hm
      exacts [h.held m hm, by cases hm]
  | lookupHit i _ _ _ hp _ | lookupMiss i _ _ _ hp _ | insertConflict i _ _ _ hp _ =>
    exact h.replace hp rfl rfl rfl hc rfl
  | insertOk i _ _ _ hp _ => exact h.replace hp rfl rfl (by split <;> rfl) hc rfl
  | createFail i _ _ ph _ hp => cases ph <;> exact h.replace hp rfl rfl rfl hc rfl
  | batchInsert i _ hp => exact h.replace hp rfl rfl (by split <;> rfl) hc rfl
  | batchFail i _ _ hp => exact h.replace hp rfl rfl rfl hc rfl
  | cancelFetch i id hp =>
    exact h.replace hp rfl rfl (by (repeat' split) <;> rfl) hc rfl
  | cancelWrite i _ _ hp | cancelFail i _ _ _ hp =>
    exact h.replace hp rfl rfl rfl hc rfl
  | offerOk i o n rest _ hp _ | offerRefused i o n rest _ hp _ | markOk i o n rest hp _
    | markFail i o n rest _ hp =>
    refine h.replace hp rfl rfl ?_ hc rfl
    cases rest <;> (try cases o) <;> rfl
  | dequeueHigh i _ _ hp _ | dequeueEmpty i hp _ | receive i _ _ _ hp _ | workerStop i hp _
    | limitPanic i _ hp _ | limitBurst i _ hp _ _ | limitCancelled i _ hp _ _ | batchCounts i _ hp
    | batchWrite i _ _ _ hp | batchCountsFail i _ _ _ _ hp | pollFail i _ _ hp | pollerStop i _ hp _ =>
    exact h.replace hp rfl rfl rfl hc rfl
  | workerFail i ph _ hp hph =>
    refine h.replace hp rfl ?_ rfl hc rfl
    rcases hph with ⟨_, rfl⟩ | ⟨_, rfl⟩ | ⟨_, _, rfl⟩ | ⟨_, _, rfl, -⟩ <;> rfl

end Sys.Drained

/-- From a state whose `workerCtx` is cancelled, up to the restart, the provider is called only
for rows workers were already sending: at most one call per such worker. -/
theorem shutdown_sends_only_in_flight {cfg : Config} {s s' : Sys} {as : List Action}
    (hc : s.cancelled = true) (hnr : Action.restart ∉ as) (he : exec cfg s as = some s') :
    ∃ new, s'.sendLog = s.sendLog ++ new ∧ new.length ≤ s.inFlight.length ∧
      ∀ e ∈ new, ∃ n ∈ s.inFlight, e.1 = n.id := by
  suffices hd : ∀ {t : Sys} {bs : List Action}, s.Drained t → Action.restart ∉ bs →
      exec cfg t bs = some s' → s.Drained s' by
    obtain ⟨new, hlog, hcount, hids⟩ := (hd (.refl hc) hnr he).sends
    exact ⟨new, hlog, by omega, hids⟩
  intro t bs ht hbs hex
  induction bs generalizing t with
  | nil => cases hex; exact ht
  | cons b bs ih =>
    simp only [exec, Option.bind_eq_some] at hex
    obtain ⟨t₁, h₁, h₂⟩ := hex
    have hb : b ≠ .restart := fun e => hbs (e ▸ List.mem_cons_self _ _)
    exact ih (ht.step (step_moves h₁) hb) (fun hr => hbs (List.mem_cons_of_mem _ hr)) h₂

/-- `Create`'s row reaches worker 0's `Send`, and then `Shutdown` cancels `workerCtx`. -/
def sendingAtShutdown : List Action :=
  [.create ⟨channelSMS, "+905551234567", "Hello", priorityNormal, none⟩ "", .step 17, .step 17,
    .step 17, .step 0, .receive 0 .normal, .step 0, .step 0, .step 0, .shutdown]

/-- The send in flight at the shutdown ends in the context's error, and it is the only one. -/
theorem in_flight_send_ends_cancelled :
    (reached Config.default sendingAtShutdown).cancelled = true ∧
      Action.restart ∉ [Action.reply 0 (.error "context canceled")] ∧
      exec Config.default (reached Config.default sendingAtShutdown)
          [.reply 0 (.error "context canceled")] =
        some (reached Config.default (sendingAtShutdown ++ [.reply 0 (.error "context canceled")])) ∧
      ∃ new, (reached Config.default
            (sendingAtShutdown ++ [.reply 0 (.error "context canceled")])).sendLog =
          (reached Config.default sendingAtShutdown).sendLog ++ new ∧
        new.length ≤ (reached Config.default sendingAtShutdown).inFlight.length ∧
        ∀ e ∈ new, ∃ n ∈ (reached Config.default sendingAtShutdown).inFlight, e.1 = n.id :=
  have h₁ : (exec Config.default (Sys.init Config.default) sendingAtShutdown).isSome := by decide
  have h₂ : (exec Config.default (Sys.init Config.default)
      (sendingAtShutdown ++ [.reply 0 (.error "context canceled")])).isSome := by decide
  have hc : (reached Config.default sendingAtShutdown).cancelled = true := by decide
  have he : exec Config.default (reached Config.default sendingAtShutdown)
      [.reply 0 (.error "context canceled")] =
      some (reached Config.default (sendingAtShutdown ++ [.reply 0 (.error "context canceled")])) := by
    simp only [exec, step_reached h₁ h₂, Option.some_bind]
  ⟨hc, by decide, he, shutdown_sends_only_in_flight hc (by decide) he⟩

end NotificationDispatch
